import Mathlib.Data.List.Nodup
import ServiceMigration.Value.Basic
/-!
# Documents that JSON can hold

A value may have a mapping with keys that are no texts, or with one key twice; such a value is
written like another one.  `IsDocument` leaves these out and puts a condition on the scalars.  Its
induction is the induction on values that the rest of the theory uses.
-/

namespace ServiceMigration

namespace Scalar

theorem str_injective : Function.Injective Scalar.str := fun _ _ h => Scalar.str.inj h

@[simp] theorem sameAs_str (a b : String) : (Scalar.str a).sameAs (.str b) = (a == b) := by
  simp [sameAs, number?, beq_eq_decide]

/-- A text, a truth value, or null. -/
def IsWord : Scalar → Prop
  | .null | .bool _ | .str _ => True
  | _ => False

/-- What JSON has a form for. -/
def IsJson : Scalar → Prop
  | .moment _ => False
  | _ => True

def IsFinite : Scalar → Prop
  | .float d => d.isFinite = true
  | _ => True

theorem IsWord.isJson (s : Scalar) (h : s.IsWord) : s.IsJson := by
  cases s with
  | moment m => exact h
  | _ => trivial

end Scalar

namespace Value

variable {p q : Scalar → Prop}

/-- The keys of every mapping are different texts, and every scalar that is not a key is as
asked. -/
inductive IsDocument (p : Scalar → Prop) : Value → Prop
  | scalar {s : Scalar} (h : p s) : IsDocument p (.scalar s)
  | list {items : List Value} (h : ∀ v ∈ items, IsDocument p v) : IsDocument p (.list items)
  | dict {entries : List (Scalar × Value)} (htext : ∀ e ∈ entries, ∃ k, e.1 = .str k)
      (hkeys : (entries.map Prod.fst).Nodup) (h : ∀ e ∈ entries, IsDocument p e.2) :
      IsDocument p (.dict entries)

theorem IsDocument.mono (h : ∀ s, p s → q s) {v : Value} (hv : IsDocument p v) :
    IsDocument q v := by
  induction hv with
  | scalar hs => exact .scalar (h _ hs)
  | list _ ih => exact .list ih
  | dict htext hkeys _ ih => exact .dict htext hkeys ih

theorem IsDocument.of_mem_items {items : List Value} (h : IsDocument p (.list items)) :
    ∀ v ∈ items, IsDocument p v := by
  cases h with
  | list hitems => exact hitems

theorem IsDocument.of_mem_entries {entries : List (Scalar × Value)}
    (h : IsDocument p (.dict entries)) : ∀ e ∈ entries, IsDocument p e.2 := by
  cases h with
  | dict _ _ hvalues => exact hvalues

/-! ### Mappings with text keys -/

theorem isDocument_object {entries : List (String × Value)} :
    IsDocument p (.object entries) ↔
      (entries.map Prod.fst).Nodup ∧ ∀ e ∈ entries, IsDocument p e.2 := by
  have hmap : (entries.map fun e => ((.str e.1, e.2) : Scalar × Value)).map Prod.fst =
      (entries.map Prod.fst).map Scalar.str := by simp
  constructor
  · intro h
    cases h with
    | dict _ hkeys hvalues =>
      refine ⟨(List.nodup_map_iff Scalar.str_injective).mp (hmap ▸ hkeys), fun e he => ?_⟩
      exact hvalues (.str e.1, e.2) (List.mem_map.mpr ⟨e, he, rfl⟩)
  · rintro ⟨hkeys, hvalues⟩
    refine .dict ?_ (hmap ▸ (List.nodup_map_iff Scalar.str_injective).mpr hkeys) ?_
    · intro e he
      obtain ⟨f, -, rfl⟩ := List.mem_map.mp he
      exact ⟨f.1, rfl⟩
    · intro e he
      obtain ⟨f, hf, rfl⟩ := List.mem_map.mp he
      exact hvalues f hf

theorem isDocument_optional {α : Type} {f : α → Value} (hnull : p .null)
    (h : ∀ a, IsDocument p (f a)) (o : Option α) : IsDocument p (optional f o) := by
  cases o with
  | none => exact .scalar hnull
  | some a => exact h a

theorem isDocument_list_map {α : Type} {f : α → Value} {as : List α}
    (h : ∀ a ∈ as, IsDocument p (f a)) : IsDocument p (.list (as.map f)) :=
  .list (List.forall_mem_map.mpr h)

theorem exists_mem_of_entry? {key : Scalar} {v : Value} {entries : List (Scalar × Value)}
    (h : entry? key entries = some v) : ∃ e ∈ entries, e.2 = v := by
  induction entries with
  | nil => exact absurd h nofun
  | cons e rest ih =>
    rw [Value.entry?] at h
    split at h
    · exact ⟨e, List.mem_cons_self, Option.some.inj h⟩
    · obtain ⟨f, hf, hvalue⟩ := ih h
      exact ⟨f, List.mem_cons_of_mem _ hf, hvalue⟩

/-! ### One entry put in -/

theorem entry?_insertEntry_self (k : String) (v : Value) (entries : List (Scalar × Value)) :
    entry? (.str k) (insertEntry (.str k) v entries) = some v := by
  induction entries with
  | nil => simp [insertEntry, entry?]
  | cons e rest ih =>
    rw [insertEntry]
    split
    · next hsame => rw [Value.entry?, if_pos hsame]
    · next hsame => rw [Value.entry?, if_neg hsame, ih]

theorem entry?_insertEntry_of_ne {k l : String} (h : l ≠ k) (v : Value)
    (entries : List (Scalar × Value)) :
    entry? (.str l) (insertEntry (.str k) v entries) = entry? (.str l) entries := by
  have hkey : ∀ key : Scalar, key.sameAs (.str k) = true → key.sameAs (.str l) = false := by
    intro key hk
    cases key with
    | str s =>
      rw [Scalar.sameAs_str, beq_iff_eq] at hk
      rw [Scalar.sameAs_str, hk]
      simpa using h.symm
    | _ => exact absurd hk nofun
  induction entries with
  | nil =>
    have hne : k ≠ l := h.symm
    simp [insertEntry, entry?, hne]
  | cons e rest ih =>
    rw [insertEntry]
    split
    · next hsame => rw [Value.entry?, Value.entry?, hkey _ hsame]; rfl
    · next hsame => rw [Value.entry?, Value.entry?, ih]

theorem entry?_eq_none_iff {k : String} {entries : List (Scalar × Value)}
    (htext : ∀ e ∈ entries, ∃ l, e.1 = .str l) :
    entry? (.str k) entries = none ↔ .str k ∉ entries.map Prod.fst := by
  induction entries with
  | nil => simp [Value.entry?]
  | cons e rest ih =>
    obtain ⟨⟨l, hl⟩, hrest⟩ := List.forall_mem_cons.mp htext
    obtain ⟨key, v⟩ := e
    obtain rfl : key = .str l := hl
    rw [Value.entry?, Scalar.sameAs_str, List.map_cons, List.mem_cons, not_or, ← ih hrest]
    by_cases hk : l = k
    · simp [hk]
    · simp [hk, Ne.symm hk]

theorem map_fst_insertEntry {k : String} {v : Value} {entries : List (Scalar × Value)}
    (htext : ∀ e ∈ entries, ∃ l, e.1 = .str l) :
    (insertEntry (.str k) v entries).map Prod.fst =
      if .str k ∈ entries.map Prod.fst then entries.map Prod.fst
      else entries.map Prod.fst ++ [.str k] := by
  induction entries with
  | nil => rfl
  | cons e rest ih =>
    obtain ⟨⟨l, hl⟩, hrest⟩ := List.forall_mem_cons.mp htext
    obtain ⟨key, w⟩ := e
    obtain rfl : key = .str l := hl
    rw [insertEntry, Scalar.sameAs_str]
    by_cases hk : l = k
    · simp [hk]
    · have hne : ¬ k = l := Ne.symm hk
      rw [if_neg (by simpa using hk), List.map_cons, ih hrest]
      simp only [List.map_cons, List.mem_cons, Scalar.str.injEq, hne, false_or]
      split <;> simp

theorem mem_insertEntry {key : Scalar} {v : Value} {entries : List (Scalar × Value)}
    {e : Scalar × Value} (h : e ∈ insertEntry key v entries) :
    e.2 = v ∧ (e.1 = key ∨ e.1 ∈ entries.map Prod.fst) ∨ e ∈ entries := by
  induction entries with
  | nil =>
    obtain rfl := List.mem_singleton.mp h
    exact .inl ⟨rfl, .inl rfl⟩
  | cons f rest ih =>
    rw [insertEntry] at h
    split at h
    · rcases List.mem_cons.mp h with rfl | h
      · exact .inl ⟨rfl, .inr List.mem_cons_self⟩
      · exact .inr (List.mem_cons_of_mem _ h)
    · rcases List.mem_cons.mp h with rfl | h
      · exact .inr List.mem_cons_self
      · exact (ih h).imp (And.imp_right (Or.imp_right (List.mem_cons_of_mem _)))
          (List.mem_cons_of_mem _)

theorem IsDocument.insertEntry {k : String} {v : Value} {entries : List (Scalar × Value)}
    (h : IsDocument p (.dict entries)) (hv : IsDocument p v) :
    IsDocument p (.dict (insertEntry (.str k) v entries)) := by
  cases h with
  | dict htext hkeys hvalues =>
    refine .dict ?_ ?_ ?_
    · intro e he
      rcases mem_insertEntry he with ⟨-, hkey | hkey⟩ | hold
      · exact ⟨k, hkey⟩
      · obtain ⟨f, hf, hsame⟩ := List.mem_map.mp hkey
        rw [← hsame]
        exact htext f hf
      · exact htext e hold
    · rw [map_fst_insertEntry htext]
      split
      · exact hkeys
      · next hnew =>
        rw [← List.concat_eq_append]
        exact hkeys.concat hnew
    · intro e he
      rcases mem_insertEntry he with ⟨hvalue, -⟩ | hold
      · rw [hvalue]
        exact hv
      · exact hvalues e hold

/-! ### Entries put in one after the other -/

theorem insertEntry_str_of_not_mem {k : String} (v : Value) {entries : List (Scalar × Value)}
    (htext : ∀ e ∈ entries, ∃ l, e.1 = .str l) (hnew : .str k ∉ entries.map Prod.fst) :
    insertEntry (.str k) v entries = entries ++ [(.str k, v)] := by
  induction entries with
  | nil => rfl
  | cons e rest ih =>
    obtain ⟨⟨l, hl⟩, hrest⟩ := List.forall_mem_cons.mp htext
    obtain ⟨key, w⟩ := e
    obtain rfl : key = .str l := hl
    rw [List.map_cons, List.mem_cons, not_or] at hnew
    have hne : l ≠ k := fun heq => hnew.1 (heq ▸ rfl)
    rw [insertEntry, Scalar.sameAs_str, if_neg (by simpa using hne), ih hrest hnew.2]
    rfl

theorem foldl_insertEntry {entries acc : List (Scalar × Value)}
    (htext : ∀ e ∈ acc ++ entries, ∃ k, e.1 = .str k)
    (hkeys : ((acc ++ entries).map Prod.fst).Nodup) :
    entries.foldl (fun acc e => insertEntry e.1 e.2 acc) acc = acc ++ entries := by
  induction entries generalizing acc with
  | nil => simp
  | cons e rest ih =>
    obtain ⟨k, hk⟩ := htext e (by simp)
    obtain ⟨key, v⟩ := e
    obtain rfl : key = .str k := hk
    have hnew : Scalar.str k ∉ acc.map Prod.fst := by
      intro hmem
      rw [List.map_append, List.nodup_append] at hkeys
      exact hkeys.2.2 _ hmem _ (by simp) rfl
    have hmove : acc ++ (.str k, v) :: rest = acc ++ [(.str k, v)] ++ rest := by simp
    rw [hmove] at htext hkeys ⊢
    rw [List.foldl_cons, insertEntry_str_of_not_mem v (fun e he => htext e (by simp [he])) hnew]
    exact ih htext hkeys

/-- Entries with different text keys stay as they are. -/
theorem ofEntries_eq {entries : List (Scalar × Value)} (htext : ∀ e ∈ entries, ∃ k, e.1 = .str k)
    (hkeys : (entries.map Prod.fst).Nodup) : ofEntries entries = .dict entries :=
  congrArg Value.dict (foldl_insertEntry htext hkeys)

/-- Entries that are put in one after the other make a document, if their keys are texts. -/
theorem isDocument_ofEntries {entries : List (Scalar × Value)}
    (htext : ∀ e ∈ entries, ∃ k, e.1 = .str k) (h : ∀ e ∈ entries, IsDocument p e.2) :
    IsDocument p (ofEntries entries) := by
  have hfold : ∀ acc, IsDocument p (.dict acc) →
      IsDocument p (.dict (entries.foldl (fun acc e => Value.insertEntry e.1 e.2 acc) acc)) := by
    intro acc hacc
    induction entries generalizing acc with
    | nil => exact hacc
    | cons e rest ih =>
      obtain ⟨⟨k, hk⟩, hrest⟩ := List.forall_mem_cons.mp htext
      obtain ⟨he, hvalues⟩ := List.forall_mem_cons.mp h
      rw [List.foldl_cons, hk]
      exact ih hrest hvalues _ (hacc.insertEntry he)
  exact hfold [] (.dict (by simp) .nil (by simp))

/-! ### What can be written of a document -/

theorem finiteItems_eq (items : List Value) : finiteItems items = items.map finitePart := by
  induction items with
  | nil => rfl
  | cons v rest ih => rw [finiteItems, ih, List.map_cons]

theorem finiteEntries_eq (entries : List (Scalar × Value)) :
    finiteEntries entries = entries.map fun e => (e.1, finitePart e.2) := by
  induction entries with
  | nil => rfl
  | cons e rest ih => rw [finiteEntries, ih, List.map_cons]

/-- Nothing is lost of a document whose numbers are finite. -/
theorem finitePart_eq_self {v : Value} (h : IsDocument Scalar.IsFinite v) : finitePart v = v := by
  induction h with
  | @scalar s hs =>
    cases s with
    | float d =>
      have hd : d.isFinite = true := hs
      rw [finitePart, if_pos hd]
    | _ => rfl
  | @list items _ ih =>
    have hitems : items.map finitePart = items.map id := List.map_congr_left ih
    rw [finitePart, finiteItems_eq, hitems, List.map_id]
  | @dict entries _ _ _ ih =>
    have hentries : entries.map (fun e => (e.1, finitePart e.2)) = entries.map id :=
      List.map_congr_left fun e he => Prod.ext rfl (ih e he)
    rw [finitePart, finiteEntries_eq, hentries, List.map_id]

/-- What can be written of a document is one, with null for some of its numbers. -/
theorem IsDocument.finitePart (hnull : p .null) {v : Value} (h : IsDocument p v) :
    IsDocument p v.finitePart := by
  induction h with
  | @scalar s hs =>
    cases s with
    | float d =>
      rw [Value.finitePart]
      split
      · exact .scalar hs
      · exact .scalar hnull
    | _ => exact .scalar hs
  | list _ ih =>
    rw [Value.finitePart, finiteItems_eq]
    exact isDocument_list_map ih
  | @dict entries htext hkeys _ ih =>
    rw [Value.finitePart, finiteEntries_eq]
    refine .dict (List.forall_mem_map.mpr htext) ?_ (List.forall_mem_map.mpr ih)
    rwa [List.map_map]

end Value

end ServiceMigration
