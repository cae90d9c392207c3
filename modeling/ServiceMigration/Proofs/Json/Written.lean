import ServiceMigration.Proofs.Json.RoundTrip
/-!
# Documents that can be written

A document is written unless a whole number in it has too many digits (`render_eq_some_iff`); the
order of its entries makes no difference to that (`hasLongNumber_sorted`).  A document whose numbers
fit is written, and read back from its text (`exists_render`).
-/

namespace ServiceMigration

namespace Value

variable {p : Scalar → Prop}

theorem itemsHaveLongNumber_eq (items : List Value) :
    itemsHaveLongNumber items = items.any hasLongNumber := by
  induction items with
  | nil => rfl
  | cons v rest ih => rw [itemsHaveLongNumber, List.any_cons, ih]

theorem entriesHaveLongNumber_eq (entries : List (Scalar × Value)) :
    entriesHaveLongNumber entries =
      entries.any fun e => e.1.isLongNumber || e.2.hasLongNumber := by
  induction entries with
  | nil => rfl
  | cons e rest ih => rw [entriesHaveLongNumber, List.any_cons, ih]

@[simp] theorem hasLongNumber_str (s : String) : (Value.str s).hasLongNumber = false := rfl

@[simp] theorem hasLongNumber_int (i : Int) :
    (Value.int i).hasLongNumber = (Scalar.int i).isLongNumber := rfl

@[simp] theorem hasLongNumber_null : Value.null.hasLongNumber = false := rfl

@[simp] theorem hasLongNumber_bool (b : Bool) : (Value.bool b).hasLongNumber = false := rfl

theorem hasLongNumber_list (items : List Value) :
    (Value.list items).hasLongNumber = items.any hasLongNumber := itemsHaveLongNumber_eq items

theorem hasLongNumber_object (entries : List (String × Value)) :
    (Value.object entries).hasLongNumber = entries.any fun e => e.2.hasLongNumber := by
  rw [object, hasLongNumber, entriesHaveLongNumber_eq, List.any_map]
  rfl

/-- Numbers that fit are not too long. -/
theorem IsDocument.hasLongNumber_eq_false {v : Value}
    (h : IsDocument (Scalar.FitsJson Json.maxDigits) v) : v.hasLongNumber = false := by
  induction h with
  | @scalar s hs =>
    cases s with
    | int i => exact decide_eq_false (Nat.not_lt.mpr hs)
    | null | bool | float | str | moment => rfl
  | list _ ih =>
    rw [hasLongNumber_list, List.any_eq_false]
    intro v hv
    simp [ih v hv]
  | dict htext _ _ ih =>
    rw [hasLongNumber, entriesHaveLongNumber_eq, List.any_eq_false]
    intro e he
    obtain ⟨k, hk⟩ := htext e he
    simp [hk, ih e he, Scalar.isLongNumber]

end Value

theorem lt_length_digits_pow {n : Nat} (hn : 0 < n) :
    n < (Decimal.digits ((10 : Int) ^ n).natAbs).length := by
  have hsize : ¬ (Decimal.digits ((10 : Int) ^ n).natAbs).length ≤ n := by
    rw [Decimal.digits, Nat.length_toDigits_le_iff (by decide) hn, Int.natAbs_pow]
    exact lt_irrefl _
  exact Nat.not_le.mp hsize

/-- The least whole number that is too long to be written. -/
def Scalar.longNumber : Int := 10 ^ Json.maxDigits

theorem Scalar.isLongNumber_int {i : Int} (h : Json.maxDigits < (Decimal.digits i.natAbs).length) :
    (Scalar.int i).isLongNumber = true := decide_eq_true h

theorem Scalar.isLongNumber_longNumber : (Scalar.int longNumber).isLongNumber = true := by
  refine isLongNumber_int ?_
  rw [longNumber]
  exact lt_length_digits_pow (by decide)

namespace Json

open Value

/-! ### The order of entries -/

theorem entriesHaveLongNumber_insertSorted (e : Scalar × Value) (entries : List (Scalar × Value)) :
    entriesHaveLongNumber (insertSorted e entries) = entriesHaveLongNumber (e :: entries) := by
  induction entries with
  | nil => rfl
  | cons f rest ih =>
    rw [insertSorted]
    split
    · rfl
    · rw [entriesHaveLongNumber, ih]
      simp only [entriesHaveLongNumber]
      ac_rfl

mutual

/-- Putting entries in order makes no number longer. -/
theorem hasLongNumber_sorted : (v : Value) → (sorted v).hasLongNumber = v.hasLongNumber
  | .scalar _ => rfl
  | .list items => itemsHaveLongNumber_sortedItems items
  | .dict entries => entriesHaveLongNumber_sortedEntries entries

theorem itemsHaveLongNumber_sortedItems :
    (items : List Value) → itemsHaveLongNumber (sortedItems items) = itemsHaveLongNumber items
  | [] => rfl
  | v :: rest => by
    rw [sortedItems, itemsHaveLongNumber, itemsHaveLongNumber, hasLongNumber_sorted v,
      itemsHaveLongNumber_sortedItems rest]

theorem entriesHaveLongNumber_sortedEntries :
    (entries : List (Scalar × Value)) →
      entriesHaveLongNumber (sortedEntries entries) = entriesHaveLongNumber entries
  | [] => rfl
  | (k, v) :: rest => by
    rw [sortedEntries, entriesHaveLongNumber_insertSorted, entriesHaveLongNumber,
      entriesHaveLongNumber, hasLongNumber_sorted v, entriesHaveLongNumber_sortedEntries rest]

end

/-! ### Texts -/

variable {v w : Value} {text : String}

theorem render_eq_some_iff : render v = some text ↔ v.hasLongNumber = false ∧ layout v = text := by
  unfold render
  cases v.hasLongNumber <;> simp

theorem render_eq_none_iff : render v = none ↔ v.hasLongNumber = true := by
  unfold render
  cases v.hasLongNumber <;> simp

theorem canonical_eq_none_iff : canonical v = none ↔ v.hasLongNumber = true := by
  rw [canonical, render_eq_none_iff, hasLongNumber_sorted]

theorem exists_canonical (h : v.hasLongNumber = false) : ∃ text, canonical v = some text := by
  refine Option.ne_none_iff_exists'.mp fun hnone => ?_
  rw [canonical_eq_none_iff.mp hnone] at h
  cases h

/-- A document whose numbers fit is written, and read back. -/
theorem exists_render (h : IsDocument (Scalar.FitsJson maxDigits) v) :
    ∃ text, render v = some text ∧ parse text = .ok v :=
  ⟨layout v, render_eq_some_iff.mpr ⟨h.hasLongNumber_eq_false, rfl⟩, parse_layout h⟩

/-- A text is written of one document only. -/
theorem eq_of_render (hv : IsDocument Scalar.IsJson v) (hw : IsDocument Scalar.IsJson w)
    (h : render v = some text) (h' : render w = some text) : v = w := by
  obtain ⟨-, hlayout⟩ := render_eq_some_iff.mp h
  obtain ⟨-, hlayout'⟩ := render_eq_some_iff.mp h'
  exact layout_injective hv hw (hlayout.trans hlayout'.symm)

end Json

end ServiceMigration
