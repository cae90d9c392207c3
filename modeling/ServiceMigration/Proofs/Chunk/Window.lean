import ServiceMigration.Cache.Key
import ServiceMigration.Chunk.Partition
import ServiceMigration.Proofs.Chunk.Closure
/-!
# Windows of a module

A chunk that is cut out of a module has some of its endpoints in a row and what these need of all
that the module declares.  Main statements: the chunks of a module have its endpoints between them,
in order (`flatMap_endpoints_chunks`), and a chunk that is cut out of a chunk is cut out of the
module (`ModuleSpec.IsWindowOf.trans`), so that it does not matter on which way it was reached.
-/

namespace ServiceMigration

namespace Chunk

theorem flatten_windows {size : Nat} (hs : 0 < size) (items : List α) :
    (windows size items).flatten = items := by
  fun_induction windows size items with
  | case1 items h =>
    rcases h with h | h
    · omega
    · simp [h]
  | case2 items h ih => rw [List.flatten_cons, ih, List.take_append_drop]

theorem infix_of_mem_windows {size : Nat} (hs : 0 < size) {w items : List α}
    (h : w ∈ windows size items) : w <:+: items := by
  have hinfix := List.infix_of_mem_flatten h
  rwa [flatten_windows hs] at hinfix

theorem length_le_of_mem_windows {size : Nat} {w items : List α} (h : w ∈ windows size items) :
    w.length ≤ size := by
  fun_induction windows size items with
  | case1 => simp at h
  | case2 items _ ih =>
    rcases List.mem_cons.mp h with rfl | h
    · exact List.length_take_le size items
    · exact ih h

/-- There are as many windows as the quotient of items and size, rounded up. -/
theorem length_windows {size : Nat} (hs : 0 < size) (items : List α) :
    (windows size items).length = (items.length + size - 1) / size := by
  fun_induction windows size items with
  | case1 items h =>
    rcases h with h | rfl
    · omega
    · exact (Nat.div_eq_of_lt (by simp only [List.length_nil]; omega)).symm
  | case2 items h ih =>
    have hpos : 0 < items.length := List.length_pos_iff.mpr fun he => h (.inr he)
    have hsum : items.length + size - 1 = items.length - 1 + size := by omega
    rw [List.length_cons, ih, List.length_drop, hsum, Nat.add_div_right _ hs]
    by_cases hle : items.length ≤ size
    · have hlast : items.length - size + size - 1 = size - 1 := by omega
      rw [hlast, Nat.div_eq_of_lt (by omega), Nat.div_eq_of_lt (by omega)]
    · have hmore : items.length - size + size - 1 = items.length - 1 := by omega
      rw [hmore]

theorem seedNames_subset {part whole : List Endpoint} (h : part ⊆ whole) :
    seedNames part ⊆ seedNames whole := by
  intro n hn
  simp only [seedNames, List.mem_flatMap] at hn ⊢
  obtain ⟨t, ⟨e, he, ht⟩, hn⟩ := hn
  exact ⟨t, ⟨e, h he, ht⟩, hn⟩

end Chunk

namespace ModuleSpec

open Chunk

variable {c c' m : ModuleSpec} {size : Nat}

/-- A chunk that is cut out of a module: endpoints in a row, with what they need of all that the
module declares, and without collaborators. -/
structure IsWindowOf (c m : ModuleSpec) : Prop where
  projectName : c.projectName = m.projectName
  moduleName : c.moduleName = m.moduleName
  endpoints : c.endpoints <:+: m.endpoints
  dtos : c.dtos = requiredDtos c.endpoints m.dtos
  services : c.services = []
  repositories : c.repositories = []
  metadata : c.metadata = m.metadata

theorem isWindowOf_window {w : List Endpoint} (h : w <:+: m.endpoints) :
    (m.window w).IsWindowOf m :=
  ⟨rfl, rfl, h, rfl, rfl, rfl, rfl⟩

theorem IsWindowOf.eq_window (h : c.IsWindowOf m) : c = m.window c.endpoints := by
  obtain ⟨hproject, hmodule, -, hdtos, hservices, hrepositories, hmetadata⟩ := h
  cases c
  simp_all [window]

theorem IsWindowOf.ext (h : c.IsWindowOf m) (h' : c'.IsWindowOf m)
    (he : c.endpoints = c'.endpoints) : c = c' := by
  rw [h.eq_window, h'.eq_window, he]

/-- What is cut out of a window is cut out of the module. -/
theorem IsWindowOf.trans (h' : c'.IsWindowOf c) (h : c.IsWindowOf m) : c'.IsWindowOf m where
  projectName := h'.projectName.trans h.projectName
  moduleName := h'.moduleName.trans h.moduleName
  endpoints := h'.endpoints.trans h.endpoints
  dtos := by
    rw [h'.dtos, h.dtos]
    exact requiredDtos_requiredDtos m.dtos fun n hn =>
      seedNames_subset h'.endpoints.subset hn
  services := h'.services
  repositories := h'.repositories
  metadata := h'.metadata.trans h.metadata

/-- A chunk of a module is the module itself, which is small enough, or a window of one that is
not. -/
theorem mem_chunks (hs : 0 < size) (h : c ∈ m.chunks size) :
    (c = m ∧ m.endpoints.length ≤ size) ∨
      (c.IsWindowOf m ∧ c.endpoints.length ≤ size ∧ size < m.endpoints.length) := by
  rw [chunks] at h
  split at h
  · next hfits => exact .inl ⟨List.mem_singleton.mp h, by simpa [fits] using hfits⟩
  · next hfits =>
    obtain ⟨w, hw, rfl⟩ := List.mem_map.mp h
    exact .inr ⟨isWindowOf_window (infix_of_mem_windows hs hw), length_le_of_mem_windows hw,
      by simpa [fits] using hfits⟩

/-- The chunks of a module have its endpoints between them, in order. -/
theorem flatMap_endpoints_chunks (hs : 0 < size) (m : ModuleSpec) :
    (m.chunks size).flatMap (·.endpoints) = m.endpoints := by
  rw [chunks]
  split
  · simp
  · rw [List.flatMap_def, List.map_map]
    calc ((windows size m.endpoints).map ((·.endpoints) ∘ m.window)).flatten
        = ((windows size m.endpoints).map id).flatten := rfl
      _ = m.endpoints := by rw [List.map_id, flatten_windows hs]

end ModuleSpec

end ServiceMigration
