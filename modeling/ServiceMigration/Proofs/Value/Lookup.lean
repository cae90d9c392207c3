import Mathlib.Data.List.Nodup
import Mathlib.Data.List.Perm.Basic
/-!
# Looking up in a list of entries

A list of entries is a mapping when its keys differ: then an entry is in the list exactly if it is
found under its key, and the order of the entries says nothing about what is found.
-/

namespace ServiceMigration

variable {κ β : Type} [BEq κ] [LawfulBEq κ]

theorem lookup_eq_some_iff_mem {es : List (κ × β)} (h : (es.map Prod.fst).Nodup) {k : κ}
    {v : β} : es.lookup k = some v ↔ (k, v) ∈ es := by
  induction es with
  | nil => simp
  | cons e rest ih =>
    obtain ⟨hnew, hrest⟩ := List.nodup_cons.mp h
    obtain ⟨key, w⟩ := e
    by_cases hk : k = key
    · subst hk
      rw [List.lookup_cons_self, List.mem_cons, Option.some.injEq, Prod.mk.injEq]
      constructor
      · rintro rfl
        exact .inl ⟨rfl, rfl⟩
      · rintro (⟨-, rfl⟩ | hmem)
        · rfl
        · exact absurd (List.mem_map_of_mem hmem) hnew
    · have hne : (k == key) = false := by simpa using hk
      rw [List.lookup_cons, hne, List.mem_cons, Prod.mk.injEq]
      simp [hk, ih hrest]

theorem lookup_filter_fst (p : κ → Bool) (es : List (κ × β)) (k : κ) :
    (es.filter fun e => p e.1).lookup k = if p k then es.lookup k else none := by
  induction es with
  | nil => simp
  | cons e rest ih =>
    obtain ⟨key, w⟩ := e
    by_cases hk : k = key
    · subst hk
      by_cases hp : p k <;> simp [hp, ih]
    · have hne : (k == key) = false := by simpa using hk
      by_cases hp : p key <;> simp [hp, ih, List.lookup_cons, hne]

/-- Mappings with different keys are the same up to order if they hold the same. -/
theorem perm_iff_lookup {es fs : List (κ × β)} (hes : (es.map Prod.fst).Nodup)
    (hfs : (fs.map Prod.fst).Nodup) : es.Perm fs ↔ ∀ k, es.lookup k = fs.lookup k := by
  rw [List.perm_ext_iff_of_nodup hes.of_map hfs.of_map]
  constructor
  · intro h k
    ext v
    rw [lookup_eq_some_iff_mem hes, lookup_eq_some_iff_mem hfs]
    exact h (k, v)
  · rintro h ⟨k, v⟩
    rw [← lookup_eq_some_iff_mem hes, ← lookup_eq_some_iff_mem hfs, h k]

end ServiceMigration
