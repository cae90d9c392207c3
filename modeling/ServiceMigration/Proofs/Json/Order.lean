import Mathlib.Data.String.Basic
import ServiceMigration.Proofs.Json.Written
/-!
# Documents up to the order of entries

The canonical text of a document is that of the document with its entries put in order, and it says
as much as that document does (`canonical_eq_iff`).  Putting entries in order forgets where they
stood and nothing else: two mappings with the same different keys, one after the other, come out
alike only if every value does (`sorted_object_eq_iff`).  So a form with fixed keys says everything
about a thing if the forms of its parts do, which is `Faithful`.
-/

namespace ServiceMigration.Json

open Value

variable {p : Scalar → Prop} {α : Type}

/-! ### Entries in order -/

theorem sortedItems_eq (items : List Value) : sortedItems items = items.map sorted := by
  induction items with
  | nil => rfl
  | cons v rest ih => rw [sortedItems, ih, List.map_cons]

theorem insertSorted_perm (e : Scalar × Value) (es : List (Scalar × Value)) :
    (insertSorted e es).Perm (e :: es) := by
  induction es with
  | nil => rfl
  | cons f rest ih =>
    rw [insertSorted]
    split
    · rfl
    · exact (ih.cons f).trans (List.Perm.swap e f rest)

def sortedEntry (e : Scalar × Value) : Scalar × Value := (e.1, sorted e.2)

theorem sortedEntries_eq_foldr (es : List (Scalar × Value)) :
    sortedEntries es = (es.map sortedEntry).foldr insertSorted [] := by
  induction es with
  | nil => rfl
  | cons e rest ih =>
    rw [sortedEntries, ih]
    rfl

theorem sortedEntries_perm (es : List (Scalar × Value)) :
    (sortedEntries es).Perm (es.map sortedEntry) := by
  induction es with
  | nil => rfl
  | cons e rest ih =>
    rw [sortedEntries]
    exact (insertSorted_perm _ _).trans (ih.cons _)

theorem insertSorted_comm {e f : Scalar × Value} (h : sortText e.1 ≠ sortText f.1)
    (es : List (Scalar × Value)) :
    insertSorted e (insertSorted f es) = insertSorted f (insertSorted e es) := by
  induction es with
  | nil =>
    rcases lt_or_gt_of_ne h with hlt | hlt
    · simp [insertSorted, hlt, hlt.not_gt]
    · simp [insertSorted, hlt, hlt.not_gt]
  | cons g rest ih =>
    by_cases he : sortText e.1 < sortText g.1
    · by_cases hf : sortText f.1 < sortText g.1
      · rcases lt_or_gt_of_ne h with hlt | hlt
        · simp [insertSorted, hlt, hlt.not_gt, he, hf]
        · simp [insertSorted, hlt, hlt.not_gt, he, hf]
      · have hlt : sortText e.1 < sortText f.1 := he.trans_le (not_lt.mp hf)
        simp [insertSorted, hlt.not_gt, he, hf]
    · by_cases hf : sortText f.1 < sortText g.1
      · have hlt : sortText f.1 < sortText e.1 := hf.trans_le (not_lt.mp he)
        simp [insertSorted, hlt.not_gt, he, hf]
      · simp [insertSorted, he, hf, ih]

/-- The order in which entries of different keys stand does not matter. -/
theorem sortedEntries_congr {es fs : List (Scalar × Value)} (h : es.Perm fs)
    (hkeys : (es.map fun e => sortText e.1).Nodup) : sortedEntries es = sortedEntries fs := by
  induction h with
  | nil => rfl
  | cons e _ ih =>
    rw [sortedEntries, sortedEntries, ih (List.nodup_cons.mp hkeys).2]
  | swap e f es =>
    have hne : sortText f.1 ≠ sortText e.1 := by
      intro heq
      simp [heq] at hkeys
    simp only [sortedEntries]
    exact insertSorted_comm (by exact hne) _
  | trans hperm _ ih₁ ih₂ =>
    rw [ih₁ hkeys, ih₂ ((hperm.map _).nodup_iff.mp hkeys)]

theorem isDocument_sorted {v : Value} (h : IsDocument p v) : IsDocument p (sorted v) := by
  induction h with
  | scalar hs => exact .scalar hs
  | list _ ih =>
    rw [sorted, sortedItems_eq]
    exact .list (List.forall_mem_map.mpr ih)
  | @dict es htext hkeys _ ih =>
    have hperm := sortedEntries_perm es
    rw [sorted]
    refine .dict (fun e he => ?_) ?_ (fun e he => ?_)
    · obtain ⟨f, hf, rfl⟩ := List.mem_map.mp (hperm.mem_iff.mp he)
      exact htext f hf
    · rw [(hperm.map Prod.fst).nodup_iff, List.map_map]
      exact hkeys
    · obtain ⟨f, hf, rfl⟩ := List.mem_map.mp (hperm.mem_iff.mp he)
      exact ih f hf

/-- A canonical text says which document it is of, up to the order of entries. -/
theorem sorted_eq_of_canonical {v w : Value} {text : String} (hv : IsDocument Scalar.IsJson v)
    (hw : IsDocument Scalar.IsJson w) (h : canonical v = some text) (h' : canonical w = some text) :
    sorted v = sorted w :=
  eq_of_render (isDocument_sorted hv) (isDocument_sorted hw) h h'

/-! ### Mappings with fixed keys -/

/-- Of two arrangements of entries with the same keys in the same places there is only one. -/
theorem eq_of_perm_of_keys {β : Type} {es fs : List (α × β)} (h : es.Perm fs)
    (hkeys : es.map Prod.fst = fs.map Prod.fst) (hnodup : (es.map Prod.fst).Nodup) : es = fs := by
  induction es generalizing fs with
  | nil => exact (List.nil_perm.mp h).symm
  | cons e es ih =>
    cases fs with
    | nil => exact absurd hkeys (List.cons_ne_nil _ _)
    | cons f fs =>
      obtain ⟨hkey, hrest⟩ := List.cons.inj hkeys
      obtain ⟨hnew, hnodup⟩ := List.nodup_cons.mp hnodup
      obtain rfl : e = f := by
        rcases List.mem_cons.mp (h.subset (List.mem_cons_self ..)) with heq | hmem
        · exact heq
        · rw [hrest] at hnew
          exact absurd (List.mem_map_of_mem hmem) hnew
      rw [ih h.cons_inv hrest hnodup]

theorem sorted_dict_eq_iff {es fs : List (Scalar × Value)}
    (hkeys : es.map Prod.fst = fs.map Prod.fst) (hnodup : (es.map Prod.fst).Nodup) :
    sorted (.dict es) = sorted (.dict fs) ↔
      es.map (fun e => sorted e.2) = fs.map (fun e => sorted e.2) := by
  have hfst : ∀ gs : List (Scalar × Value), (gs.map sortedEntry).map Prod.fst = gs.map Prod.fst :=
    fun gs => List.map_map
  have hsnd : ∀ gs : List (Scalar × Value), (gs.map sortedEntry).map Prod.snd = gs.map fun e =>
    sorted e.2 :=
    fun gs => List.map_map
  have hsame : (es.map sortedEntry).map Prod.fst = (fs.map sortedEntry).map Prod.fst := by
    rw [hfst, hfst, hkeys]
  rw [sorted, sorted, Value.dict.injEq, ← hsnd, ← hsnd]
  constructor
  · intro h
    have hperm : (es.map sortedEntry).Perm (fs.map sortedEntry) :=
      (sortedEntries_perm es).symm.trans (h ▸ sortedEntries_perm fs)
    rw [eq_of_perm_of_keys hperm hsame (by rw [hfst]; exact hnodup)]
  · intro h
    have heq : es.map sortedEntry = fs.map sortedEntry :=
      (List.zip_of_prod hsame h).trans (List.zip_of_prod rfl rfl).symm
    rw [sortedEntries_eq_foldr, sortedEntries_eq_foldr, heq]

theorem sorted_object_eq_iff {es fs : List (String × Value)}
    (hkeys : es.map Prod.fst = fs.map Prod.fst) (hnodup : (es.map Prod.fst).Nodup) :
    sorted (.object es) = sorted (.object fs) ↔
      es.map (fun e => sorted e.2) = fs.map (fun e => sorted e.2) := by
  have hfst : ∀ gs : List (String × Value),
      (gs.map fun e => ((.str e.1, e.2) : Scalar × Value)).map Prod.fst =
        (gs.map Prod.fst).map .str :=
    fun gs => by rw [List.map_map, List.map_map]; rfl
  have hsnd : ∀ gs : List (String × Value),
      (gs.map fun e => ((.str e.1, e.2) : Scalar × Value)).map (fun e => sorted e.2) =
        gs.map fun e => sorted e.2 := fun gs => List.map_map
  rw [object, object, sorted_dict_eq_iff (by rw [hfst, hfst, hkeys])
    (by rw [hfst]; exact hnodup.map Scalar.str_injective), hsnd, hsnd]

/-! ### Forms that lose nothing -/

/-- Different things have different forms, whatever the order of entries. -/
def Faithful (f : α → Value) : Prop := ∀ a b, sorted (f a) = sorted (f b) → a = b

theorem faithful_str : Faithful str := by
  intro a b h
  exact Scalar.str.inj (Value.scalar.inj h)

theorem faithful_int : Faithful int := by
  intro a b h
  exact Scalar.int.inj (Value.scalar.inj h)

theorem faithful_float : Faithful float := by
  intro a b h
  exact Scalar.float.inj (Value.scalar.inj h)

theorem faithful_bool : Faithful bool := by
  intro a b h
  exact Scalar.bool.inj (Value.scalar.inj h)

theorem sorted_ne_null {v : Value} (h : v ≠ null) : sorted v ≠ null := by
  cases v with
  | scalar s => exact h
  | list items => exact nofun
  | dict entries => exact nofun

theorem Faithful.optional {f : α → Value} (hf : Faithful f) (hnull : ∀ a, f a ≠ null) :
    Faithful (Value.optional f) := by
  intro a b h
  cases a with
  | none =>
    cases b with
    | none => rfl
    | some b => exact absurd h.symm (sorted_ne_null (hnull b))
  | some a =>
    cases b with
    | none => exact absurd h (sorted_ne_null (hnull a))
    | some b => rw [hf a b h]

theorem Faithful.list {f : α → Value} (hf : Faithful f) :
    Faithful fun as : List α => Value.list (as.map f) := by
  intro as bs h
  have hitems : (as.map f).map sorted = (bs.map f).map sorted := by
    rw [← sortedItems_eq, ← sortedItems_eq]
    exact Value.list.inj h
  rw [List.map_map, List.map_map] at hitems
  exact List.map_injective_iff.mpr (fun a b => hf a b) hitems

theorem faithful_strings : Faithful strings := faithful_str.list

theorem faithful_optional_str : Faithful (Value.optional str) :=
  faithful_str.optional fun _ => nofun

theorem faithful_optional_int : Faithful (Value.optional int) :=
  faithful_int.optional fun _ => nofun

theorem faithful_optional_float : Faithful (Value.optional float) :=
  faithful_float.optional fun _ => nofun

theorem faithful_optional_bool : Faithful (Value.optional bool) :=
  faithful_bool.optional fun _ => nofun

end ServiceMigration.Json
