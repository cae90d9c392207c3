import Mathlib.Algebra.Order.Floor.Div
import Mathlib.Data.List.Perm.Subperm
import ServiceMigration.Proofs.Chunk.Window
/-!
# The partition of a module

Cutting goes from the front: every window but the last is full, and the last has what remains.  If a
second size divides the first, then full windows end where windows of the second size end, so that
cutting the windows again is cutting the items at once (`Chunk.flatMap_windows`).  For modules the
same holds of whole chunks, data-transfer types included, because a window of a window needs what it
needs in the module (`ModuleSpec.flatMap_chunks`).  The main statement is
`ModuleSpec.partition_of_chunksOf`.
-/

namespace ServiceMigration

namespace Chunk

variable {size k : Nat}

theorem windows_eq_nil_iff (hs : 0 < size) {items : List α} : windows size items = [] ↔
    items = [] := by
  constructor
  · intro h
    rw [← flatten_windows hs items, h, List.flatten_nil]
  · rintro rfl
    exact windows_nil size

theorem windows_of_length_le (hs : 0 < size) {items : List α} (hi : items ≠ [])
    (h : items.length ≤ size) :
    windows size items = [items] := by
  rw [windows_of_pos hs hi, List.take_of_length_le h, List.drop_eq_nil_of_le h, windows_nil]

theorem ne_nil_of_mem_windows {w items : List α} (h : w ∈ windows size items) : w ≠ [] := by
  fun_induction windows size items with
  | case1 => simp at h
  | case2 items hcut ih =>
    rcases List.mem_cons.mp h with rfl | h
    · intro hnil
      rcases List.take_eq_nil_iff.mp hnil with hzero | hempty
      · exact hcut (.inl hzero)
      · exact hcut (.inr hempty)
    · exact ih h

/-- Only the last window may be short. -/
theorem length_of_mem_dropLast_windows {w items : List α} (h : w ∈ (windows size items).dropLast) :
    w.length = size := by
  fun_induction windows size items with
  | case1 => simp at h
  | case2 items hcut ih =>
    have hs : 0 < size := Nat.pos_of_ne_zero fun h => hcut (.inl h)
    by_cases hrest : windows size (items.drop size) = []
    · simp [hrest] at h
    · rw [List.dropLast_cons_of_ne_nil hrest] at h
      rcases List.mem_cons.mp h with rfl | h
      · have hmore : items.drop size ≠ [] := mt (windows_eq_nil_iff hs).mpr hrest
        have hlength : size < items.length := by simpa [List.drop_eq_nil_iff] using hmore
        exact List.length_take_of_le hlength.le
      · exact ih h

/-- Where a window ends, cutting starts afresh. -/
theorem windows_append (hk : 0 < k) {front : List α} (back : List α) (h : k ∣ front.length) :
    windows k (front ++ back) = windows k front ++ windows k back := by
  fun_induction windows k front with
  | case1 front hstop =>
    have hnil : front = [] := hstop.resolve_left hk.ne'
    rw [hnil, List.nil_append, List.nil_append]
  | case2 front hcut ih =>
    have hne : front ≠ [] := fun h => hcut (.inr h)
    have hle : k ≤ front.length := Nat.le_of_dvd (List.length_pos_iff.mpr hne) h
    have hdrop : k ∣ (front.drop k).length := by
      rw [List.length_drop]
      exact Nat.dvd_sub h (dvd_refl k)
    have hboth : front ++ back ≠ [] := by simp [hne]
    rw [windows_of_pos hk hboth, List.take_append_of_le_length hle,
      List.drop_append_of_le_length hle, ih hdrop, List.cons_append]

/-- Windows may be cut again by a size that divides theirs. -/
theorem flatMap_windows (hs : 0 < size) (hdvd : k ∣ size) (items : List α) :
    (windows size items).flatMap (windows k) = windows k items := by
  have hk : 0 < k := Nat.pos_of_dvd_of_pos hdvd hs
  fun_induction windows size items with
  | case1 items hstop =>
    have hnil : items = [] := hstop.resolve_left hs.ne'
    rw [hnil, windows_nil, List.flatMap_nil]
  | case2 items hcut ih =>
    rw [List.flatMap_cons, ih]
    by_cases hle : size ≤ items.length
    · have hfull : k ∣ (items.take size).length := by
        rw [List.length_take_of_le hle]
        exact hdvd
      rw [← windows_append hk _ hfull, List.take_append_drop]
    · have hshort : items.length ≤ size := by omega
      rw [List.take_of_length_le hshort, List.drop_eq_nil_of_le hshort, windows_nil,
        List.append_nil]

/-- What endpoints need is taken from what is declared, each declaration once. -/
theorem subperm_requiredDtos (endpoints : List Endpoint) (dtos : List Dto) :
    List.Subperm (requiredDtos endpoints dtos) dtos := by
  have hnodup : (requiredDtos endpoints dtos).Nodup :=
    List.Nodup.of_map _ (nodup_knownNames_requiredDtos endpoints dtos)
  exact List.subperm_of_subset hnodup (subset_requiredDtos endpoints dtos)

end Chunk

namespace ModuleSpec

open Chunk

variable {c m : ModuleSpec} {size k : Nat}

theorem chunks_of_length_le (h : m.endpoints.length ≤ size) : m.chunks size = [m] := by
  rw [chunks, if_pos]
  simpa [fits] using h

theorem chunks_of_lt_length (h : size < m.endpoints.length) :
    m.chunks size = (windows size m.endpoints).map m.window := by
  rw [chunks, if_neg]
  simpa [fits] using h

/-- A window of a window is a window of the module. -/
theorem window_window {part whole : List Endpoint} (m : ModuleSpec) (h : part <:+: whole) :
    (m.window whole).window part = m.window part := by
  have hdtos : requiredDtos part (requiredDtos whole m.dtos) = requiredDtos part m.dtos :=
    requiredDtos_requiredDtos m.dtos fun _ hn => seedNames_subset h.subset hn
  simp only [window, hdtos]

theorem chunks_window (hk : 0 < k) (m : ModuleSpec) {w : List Endpoint} (hw : w ≠ []) :
    (m.window w).chunks k = (windows k w).map m.window := by
  by_cases hle : w.length ≤ k
  · rw [chunks_of_length_le hle, windows_of_length_le hk hw hle, List.map_singleton]
  · rw [chunks_of_lt_length (by simpa [window] using hle)]
    apply List.map_congr_left
    intro part hpart
    exact window_window m (infix_of_mem_windows hk hpart)

/-- Chunks may be cut again by a size that divides theirs. -/
theorem flatMap_chunks (hs : 0 < size) (hdvd : k ∣ size) (m : ModuleSpec) :
    (m.chunks size).flatMap (·.chunks k) = m.chunks k := by
  by_cases hle : m.endpoints.length ≤ size
  · rw [chunks_of_length_le hle, List.flatMap_singleton]
  · have hk : 0 < k := Nat.pos_of_dvd_of_pos hdvd hs
    have hlt : size < m.endpoints.length := by omega
    have hklt : k < m.endpoints.length := (Nat.le_of_dvd hs hdvd).trans_lt hlt
    calc (m.chunks size).flatMap (·.chunks k)
        = (windows size m.endpoints).flatMap fun w => (m.window w).chunks k := by
          rw [chunks_of_lt_length hlt, List.flatMap_map]
      _ = (windows size m.endpoints).flatMap fun w => (windows k w).map m.window :=
          List.flatMap_congr fun w hw => chunks_window hk m (ne_nil_of_mem_windows hw)
      _ = ((windows size m.endpoints).flatMap (windows k)).map m.window := by
          rw [List.map_flatMap]
      _ = m.chunks k := by rw [flatMap_windows hs hdvd, chunks_of_lt_length hklt]

/-- A chunk that is less than the module: it has fewer endpoints, and of the declared data-transfer
types some, each simple name once. -/
structure IsPartOf (c m : ModuleSpec) : Prop where
  fewer : c.endpoints.length < m.endpoints.length
  declared : List.Subperm c.dtos m.dtos
  nodup : (Mapping.knownNames c.dtos).Nodup

theorem isPartOf_window (m : ModuleSpec) {w : List Endpoint} (h : w.length < m.endpoints.length) :
    (m.window w).IsPartOf m where
  fewer := h
  declared := subperm_requiredDtos w m.dtos
  nodup := nodup_knownNames_requiredDtos w m.dtos

/-- The chunks of a module with at most `size` endpoints each, as few as there can be, and all but
the last full. -/
structure IsPartition (m : ModuleSpec) (size : Nat) (cs : List ModuleSpec) : Prop where
  count : cs.length = max 1 (m.endpoints.length ⌈/⌉ size)
  endToEnd : cs.flatMap (·.endpoints) = m.endpoints
  full : ∀ c ∈ cs.dropLast, c.endpoints.length = size
  bounded : ∀ c ∈ cs, c.endpoints.length ≤ size
  inhabited : ∀ c ∈ cs, c.endpoints = [] → m.endpoints = []
  whole : m.endpoints.length ≤ size → cs = [m]
  part : size < m.endpoints.length → ∀ c ∈ cs, c.IsPartOf m

theorem isPartition_singleton (hs : 0 < size) (h : m.endpoints.length ≤ size) :
    IsPartition m size [m] where
  count := by
    have hle : m.endpoints.length ⌈/⌉ size ≤ 1 := (ceilDiv_le_iff_le_mul hs).mpr (by omega)
    rw [List.length_singleton, max_eq_left hle]
  endToEnd := List.flatMap_singleton _ m
  full := by simp
  bounded := by simpa using h
  inhabited := by simp
  whole := fun _ => rfl
  part := by omega

theorem isPartition_map_window (hs : 0 < size) (h : size < m.endpoints.length) :
    IsPartition m size ((windows size m.endpoints).map m.window) where
  count := by
    have hone : 1 ≤ (windows size m.endpoints).length := by
      have := two_le_length_windows hs h
      omega
    rw [List.length_map, Nat.ceilDiv_eq_add_pred_div, ← length_windows hs, max_eq_right hone]
  endToEnd := by
    rw [← chunks_of_lt_length h]
    exact flatMap_endpoints_chunks hs m
  full := by
    intro c hc
    rw [← List.map_dropLast] at hc
    obtain ⟨w, hw, rfl⟩ := List.mem_map.mp hc
    exact length_of_mem_dropLast_windows hw
  bounded := by
    intro c hc
    obtain ⟨w, hw, rfl⟩ := List.mem_map.mp hc
    exact length_le_of_mem_windows hw
  inhabited := by
    intro c hc hnil
    obtain ⟨w, hw, rfl⟩ := List.mem_map.mp hc
    exact absurd hnil (ne_nil_of_mem_windows hw)
  whole := by omega
  part := by
    intro _ c hc
    obtain ⟨w, hw, rfl⟩ := List.mem_map.mp hc
    exact isPartOf_window m ((length_le_of_mem_windows hw).trans_lt h)

theorem isPartition_chunks (hs : 0 < size) (m : ModuleSpec) :
    IsPartition m size (m.chunks size) := by
  by_cases hle : m.endpoints.length ≤ size
  · rw [chunks_of_length_le hle]
    exact isPartition_singleton hs hle
  · have hlt : size < m.endpoints.length := by omega
    rw [chunks_of_lt_length hlt]
    exact isPartition_map_window hs hlt

/-- No size below one is accepted.  Any other partitions the module, and cutting every chunk again
by a size that divides it gives the chunks of that size. -/
theorem partition_of_chunksOf (m : ModuleSpec) (size : Int) :
    (size < 1 → m.chunksOf size = .error ⟨size⟩) ∧
    (1 ≤ size → ∃ cs, m.chunksOf size = .ok cs ∧ m.IsPartition size.toNat cs ∧
      ∀ k : Int, 1 ≤ k → k ∣ size →
        ∃ parts, cs.mapM (·.chunksOf k) = .ok parts ∧ m.chunksOf k = .ok parts.flatten) := by
  constructor
  · intro hsize
    exact chunksOf_of_lt_one (by omega)
  · intro hsize
    refine ⟨m.chunks size.toNat, chunksOf_of_one_le hsize, isPartition_chunks (by omega) m, ?_⟩
    intro k hk hdvd
    have hnat : k.toNat ∣ size.toNat := by
      apply Int.natCast_dvd_natCast.mp
      rwa [Int.toNat_of_nonneg (by omega), Int.toNat_of_nonneg (by omega)]
    refine ⟨(m.chunks size.toNat).map (·.chunks k.toNat), ?_, ?_⟩
    · simp only [chunksOf_of_one_le hk]
      exact List.mapM_pure
    · rw [chunksOf_of_one_le hk, ← List.flatMap_def, flatMap_chunks (by omega) hnat]

def shelfModule : ModuleSpec where
  projectName := "library"
  moduleName := "shelf"
  endpoints := ["list", "find", "latest", "lent", "lost"].map fun method => {
    id := Endpoint.identity "Shelf" method "GET"
    controllerClass := "Shelf"
    methodName := method
    httpMethod := "GET"
    path := "/shelf/" ++ method
    responseBody := some { name := "Book" } }
  dtos := [{ name := "print.Book" }, { name := "audio.Book" }, { name := "Loan" }]

theorem partition_of_shelfModule :
    shelfModule.chunksOf 0 = .error ⟨0⟩ ∧
    ∃ cs, shelfModule.chunksOf 4 = .ok cs ∧ cs.map (·.endpoints.length) = [4, 1] ∧
      (∀ c ∈ cs, c.IsPartOf shelfModule) ∧
      ∃ parts, cs.mapM (·.chunksOf 2) = .ok parts ∧ shelfModule.chunksOf 2 = .ok parts.flatten := by
  refine ⟨(partition_of_chunksOf shelfModule 0).1 (by decide), ?_⟩
  obtain ⟨cs, hcs, hpartition, hagain⟩ := (partition_of_chunksOf shelfModule 4).2 (by decide)
  refine ⟨cs, hcs, ?_, hpartition.part (by decide), hagain 2 (by decide) (by decide)⟩
  have hcount : cs.length = 2 := by
    rw [hpartition.count, Nat.ceilDiv_eq_add_pred_div]
    rfl
  obtain ⟨first, last, rfl⟩ := List.length_eq_two.mp hcount
  have hfirst : first.endpoints.length = 4 := hpartition.full first (by simp)
  have hboth : first.endpoints.length + last.endpoints.length = 5 := by
    have hlength := congrArg List.length hpartition.endToEnd
    simpa [shelfModule] using hlength
  have hlast : last.endpoints.length = 1 := by omega
  simp [hfirst, hlast]

end ModuleSpec

end ServiceMigration
