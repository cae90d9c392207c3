import Mathlib.Data.List.TakeWhile
import ServiceMigration.Json.Reader
import ServiceMigration.Json.Writer
import ServiceMigration.Proofs.Number.Decimal
/-!
# Numbers, written and read

A written number is a sign, a whole part, perhaps a fraction and perhaps an exponent.  The reader
takes each part as long as it goes, so the number is read back whatever follows it, if only that
does not continue it (`EndsNumber`).  Main statements: `readNumber_writeInt` and
`readNumber_ofDecimal`.
-/

namespace ServiceMigration.Json

open Decimal

variable {limit : Nat} {negative : Bool} {ds rest : List Char}

/-! ### Runs of digits -/

def NoDigit (rest : List Char) : Prop := ∀ c ∈ rest.head?, c.isDigit = false

/-- A number that stands before the text ends where the text begins. -/
def EndsNumber (rest : List Char) : Prop :=
  ∀ c ∈ rest.head?, c.isDigit = false ∧ c ≠ '.' ∧ c ≠ 'e' ∧ c ≠ 'E'

theorem EndsNumber.noDigit (h : EndsNumber rest) : NoDigit rest := fun c hc => (h c hc).1

theorem noDigit_cons {c : Char} (h : c.isDigit = false) : NoDigit (c :: rest) := by
  intro d hd
  obtain rfl : c = d := by simpa using hd
  exact h

theorem endsNumber_nil : EndsNumber [] := by
  intro c hc
  simp at hc

theorem endsNumber_cons {c : Char} (h : c.isDigit = false ∧ c ≠ '.' ∧ c ≠ 'e' ∧ c ≠ 'E') :
    EndsNumber (c :: rest) := by
  intro d hd
  obtain rfl : c = d := by simpa using hd
  exact h

theorem dropWhile_isDigit_eq_self (hrest : NoDigit rest) : rest.dropWhile Char.isDigit = rest := by
  cases rest with
  | nil => rfl
  | cons c cs => simp [hrest c rfl]

theorem takeWhile_isDigit_eq_nil (hrest : NoDigit rest) : rest.takeWhile Char.isDigit = [] := by
  cases rest with
  | nil => rfl
  | cons c cs => simp [hrest c rfl]

theorem takeWhile_isDigit_append (hds : ∀ c ∈ ds, c.isDigit = true) (hrest : NoDigit rest) :
    (ds ++ rest).takeWhile Char.isDigit = ds := by
  rw [List.takeWhile_append_of_pos hds, takeWhile_isDigit_eq_nil hrest, List.append_nil]

theorem dropWhile_isDigit_append (hds : ∀ c ∈ ds, c.isDigit = true) (hrest : NoDigit rest) :
    (ds ++ rest).dropWhile Char.isDigit = rest := by
  rw [List.dropWhile_append_of_pos hds, dropWhile_isDigit_eq_self hrest]

theorem isDigit_of_mem_zeros {c : Char} {k : Nat} (h : c ∈ List.replicate k '0') :
    c.isDigit = true := by
  rw [List.eq_of_mem_replicate h]
  rfl

/-! ### The parts of a number -/

/-- Digits that can stand before a point: a zero stands alone. -/
structure IsWhole (ds : List Char) : Prop where
  isDigit : ∀ c ∈ ds, c.isDigit = true
  ne_nil : ds ≠ []
  zero : ds.head? = some '0' → ds = ['0']

theorem isWhole_zero : IsWhole ['0'] where
  isDigit := by simp
  ne_nil := List.cons_ne_nil _ _
  zero := fun _ => rfl

theorem isWhole_digits (n : Nat) : IsWhole (digits n) where
  isDigit := fun _ hc => isDigit_of_mem_digits hc
  ne_nil := digits_ne_nil n
  zero := by
    intro hhead
    rcases Nat.eq_zero_or_pos n with rfl | hn
    · rfl
    · exact absurd hhead (head?_digits_ne hn)

theorem wholePart_append (hds : IsWhole ds) (hrest : NoDigit rest) :
    wholePart (ds ++ rest) = (ds, rest) := by
  unfold wholePart
  split
  · next r heq =>
    obtain ⟨c, cs, rfl⟩ := List.exists_cons_of_ne_nil hds.ne_nil
    obtain ⟨rfl, hrest'⟩ := List.cons.inj heq
    obtain rfl : cs = [] := (List.cons.inj (hds.zero rfl)).2
    exact congrArg (Prod.mk ['0']) hrest'.symm
  · rw [takeWhile_isDigit_append hds.isDigit hrest, dropWhile_isDigit_append hds.isDigit hrest]

theorem fractionPart_append (hds : ∀ c ∈ ds, c.isDigit = true) (hne : ds ≠ [])
    (hrest : NoDigit rest) :
    fractionPart ('.' :: (ds ++ rest)) = (ds, rest) := by
  simp only [fractionPart]
  rw [takeWhile_isDigit_append hds hrest, dropWhile_isDigit_append hds hrest, if_neg]
  simpa using hne

theorem fractionPart_of_ne (h : ∀ c ∈ rest.head?, c ≠ '.') : fractionPart rest = ([], rest) := by
  unfold fractionPart
  split
  · exact absurd rfl (h '.' rfl)
  · rfl

theorem exponentPart_of_endsNumber (h : EndsNumber rest) : exponentPart rest = none := by
  cases rest with
  | nil => rfl
  | cons c cs =>
    obtain ⟨-, -, he, hE⟩ := h c rfl
    simp [exponentPart, he, hE]

/-- Zeros before the digits of an exponent do not change it. -/
theorem exponentPart_exponentText (width : Nat) (x : Int) (hrest : NoDigit rest) :
    exponentPart (Numeral.exponentText width x ++ rest) = some (x, rest) := by
  set ds := List.replicate (width - (digits x.natAbs).length) '0' ++ digits x.natAbs with hds
  have hdigit : ∀ c ∈ ds, c.isDigit = true :=
    List.forall_mem_append.mpr ⟨fun _ => isDigit_of_mem_zeros, fun _ => isDigit_of_mem_digits⟩
  have hvalue : ofDigits ds = x.natAbs := by
    rw [hds, ofDigits_append, ofDigits_replicate_zero, ofDigits_digits, Nat.zero_mul, Nat.zero_add]
  have hne : ds ≠ [] := List.append_ne_nil_of_right_ne_nil _ (digits_ne_nil _)
  have htext : Numeral.exponentText width x ++ rest =
      'e' :: (if x < 0 then '-' else '+') :: (ds ++ rest) := by
    simp [Numeral.exponentText, hds]
  have hempty : ds.isEmpty = false := by simpa using hne
  rw [htext]
  by_cases hx : x < 0
  · have habs : |x| = -x := abs_of_neg hx
    simp [exponentPart, hx, takeWhile_isDigit_append hdigit hrest,
      dropWhile_isDigit_append hdigit hrest, hempty, hvalue, habs]
  · have habs : |x| = x := abs_of_nonneg (not_lt.mp hx)
    simp [exponentPart, hx, takeWhile_isDigit_append hdigit hrest,
      dropWhile_isDigit_append hdigit hrest, hempty, hvalue, habs]

/-! ### Whole numbers and doubles -/

def sign (negative : Bool) : List Char := if negative then ['-'] else []

section
variable {body tail fraction whole : List Char} {x : Int}

theorem readNumber_whole (hbody : ∀ r, body ≠ '-' :: r) (hwhole : wholePart body = (whole, rest))
    (hne : whole ≠ []) (hlimit : whole.length ≤ limit) (hrest : EndsNumber rest) :
    readNumber limit (sign negative ++ body) =
      .ok (.int (if negative then -(ofDigits whole : Int) else ofDigits whole), rest) := by
  have hfraction : fractionPart rest = ([], rest) := fractionPart_of_ne fun c hc => (hrest c hc).2.1
  cases negative <;>
    simp [readNumber, sign, hwhole, hne, hfraction, exponentPart_of_endsNumber hrest,
      Nat.not_lt.mpr hlimit]

theorem readNumber_point (hbody : ∀ r, body ≠ '-' :: r) (hwhole : wholePart body = (whole, tail))
    (hne : whole ≠ []) (hfraction : fractionPart tail = (fraction, rest)) (hdigit : fraction ≠ [])
    (hrest : EndsNumber rest) :
    readNumber limit (sign negative ++ body) =
      .ok (.float (toDouble negative ⟨ofDigits (whole ++ fraction), -(fraction.length : Int)⟩),
        rest) := by
  cases negative <;>
    simp [readNumber, sign, hwhole, hne, hfraction, hdigit, exponentPart_of_endsNumber hrest]

theorem readNumber_exponent {marked : List Char} (hbody : ∀ r, body ≠ '-' :: r)
    (hwhole : wholePart body = (whole, tail)) (hne : whole ≠ [])
    (hfraction : fractionPart tail = (fraction, marked))
    (hmarked : exponentPart marked = some (x, rest)) :
    readNumber limit (sign negative ++ body) =
      .ok (.float (toDouble negative ⟨ofDigits (whole ++ fraction), x - fraction.length⟩),
        rest) := by
  cases negative <;> simp [readNumber, sign, hwhole, hne, hfraction, hmarked]

end

theorem ne_minus_of_isWhole (hds : IsWhole ds) : ∀ r, ds ++ rest ≠ '-' :: r := by
  intro r heq
  obtain ⟨c, cs, rfl⟩ := List.exists_cons_of_ne_nil hds.ne_nil
  obtain ⟨rfl, -⟩ := List.cons.inj heq
  exact absurd (hds.isDigit '-' (List.mem_cons_self ..)) (by decide)

/-- A whole number is read back if its digits are not too many. -/
theorem readNumber_writeInt {i : Int} (hlimit : (digits i.natAbs).length ≤ limit)
    (hrest : EndsNumber rest) : readNumber limit (writeInt i ++ rest) = .ok (.int i, rest) := by
  have hds := isWhole_digits i.natAbs
  have htext : writeInt i ++ rest = sign (decide (i < 0)) ++ (digits i.natAbs ++ rest) := by
    by_cases hi : i < 0 <;> simp [writeInt, sign, hi]
  rw [htext, readNumber_whole (ne_minus_of_isWhole hds)
    (wholePart_append hds hrest.noDigit) hds.ne_nil
    hlimit hrest, ofDigits_digits]
  by_cases hi : i < 0
  · rw [decide_eq_true hi, if_pos rfl, Int.ofNat_natAbs_of_nonpos hi.le, neg_neg]
  · rw [decide_eq_false hi, if_neg (by decide), Int.natAbs_of_nonneg (not_lt.mp hi)]

theorem readNumber_tooManyDigits (hds : IsWhole ds) (hlimit : limit < ds.length)
    (hrest : EndsNumber rest) : readNumber limit (ds ++ rest) =
      .error (.tooManyDigits ds.length) := by
  have hfraction : fractionPart rest = ([], rest) := fractionPart_of_ne fun c hc => (hrest c hc).2.1
  have hminus : ∀ r, ds ++ rest ≠ '-' :: r := ne_minus_of_isWhole hds
  simp [readNumber, wholePart_append hds hrest.noDigit, hds.ne_nil, hfraction,
    exponentPart_of_endsNumber hrest, hlimit]

/-- A whole part, a point and digits. -/
theorem readNumber_append_point {fraction : List Char} (hds : IsWhole ds)
    (hfraction : ∀ c ∈ fraction, c.isDigit = true) (hne : fraction ≠ []) (hrest : EndsNumber rest) :
    readNumber limit (sign negative ++ (ds ++ '.' :: (fraction ++ rest))) =
      .ok (.float (toDouble negative ⟨ofDigits (ds ++ fraction), -(fraction.length : Int)⟩),
        rest) :=
  readNumber_point (ne_minus_of_isWhole hds)
    (wholePart_append hds (noDigit_cons (by decide))) hds.ne_nil
    (fractionPart_append hfraction hne hrest.noDigit) hne hrest

/-! ### Decimals -/

theorem dropZeros_spec (cs : List Char) (x : Int) :
    ∃ k, cs = (dropZeros cs x).1 ++ List.replicate k '0' ∧ (dropZeros cs x).2 = x + k := by
  set k := (cs.reverse.takeWhile (· == '0')).length with hk
  have hzeros : cs.reverse.takeWhile (· == '0') = List.replicate k '0' := by
    refine List.eq_replicate_iff.mpr ⟨rfl, fun c hc => ?_⟩
    simpa using List.mem_takeWhile_imp hc
  have hdrop : cs.drop (cs.length - k) = List.replicate k '0' := by
    calc cs.drop (cs.length - k) = (cs.reverse.take k).reverse := by
          rw [List.reverse_take, List.reverse_reverse, List.length_reverse]
      _ = (cs.reverse.takeWhile (· == '0')).reverse := by
          rw [hk, ← List.prefix_iff_eq_take.mp (List.takeWhile_prefix _)]
      _ = List.replicate k '0' := by rw [hzeros, List.reverse_replicate]
  refine ⟨k, ?_, rfl⟩
  calc cs = cs.take (cs.length - k) ++ cs.drop (cs.length - k) := (List.take_append_drop _ _).symm
    _ = (dropZeros cs x).1 ++ List.replicate k '0' := by rw [hdrop]; rfl

/-- Digits that a numeral is made of: they spell a number greater than zero and begin with no
zero. -/
structure IsCoefficient (ds : List Char) : Prop where
  isDigit : ∀ c ∈ ds, c.isDigit = true
  ne_nil : ds ≠ []
  head : ds.head? ≠ some '0'

theorem IsCoefficient.isWhole_append (hds : IsCoefficient ds)
    (hrest : ∀ c ∈ rest, c.isDigit = true) :
    IsWhole (ds ++ rest) where
  isDigit := List.forall_mem_append.mpr ⟨hds.isDigit, hrest⟩
  ne_nil := List.append_ne_nil_of_left_ne_nil hds.ne_nil _
  zero := by
    intro hzero
    rw [List.head?_append_of_ne_nil _ hds.ne_nil] at hzero
    exact absurd hzero hds.head

theorem isCoefficient_dropZeros {n : Nat} (hn : 0 < n) (x : Int) :
    IsCoefficient (dropZeros (digits n) x).1 := by
  obtain ⟨k, hdigits, -⟩ := dropZeros_spec (digits n) x
  have hhead := head?_digits_ne hn
  have hne : (dropZeros (digits n) x).1 ≠ [] := by
    intro hnil
    rw [hnil, List.nil_append] at hdigits
    cases k with
    | zero => exact digits_ne_nil n hdigits
    | succ k => exact hhead (by rw [hdigits]; rfl)
  refine ⟨fun c hc => ?_, hne, ?_⟩
  · apply isDigit_of_mem_digits (n := n)
    rw [hdigits]
    exact List.mem_append_left _ hc
  · rw [hdigits, List.head?_append_of_ne_nil _ hne] at hhead
    exact hhead

/-- The point before the digits. -/
theorem readNumber_before (hds : IsCoefficient ds) (k : Nat) (hrest : EndsNumber rest) :
    readNumber limit (sign negative ++ ('0' :: '.' :: (List.replicate k '0' ++ ds) ++ rest)) =
      .ok (.float (toDouble negative ⟨ofDigits ds, -(k + ds.length : Nat)⟩), rest) := by
  have hdigit : ∀ c ∈ List.replicate k '0' ++ ds, c.isDigit = true :=
    List.forall_mem_append.mpr ⟨fun _ => isDigit_of_mem_zeros, hds.isDigit⟩
  have hvalue : ofDigits (['0'] ++ (List.replicate k '0' ++ ds)) = ofDigits ds := by
    rw [ofDigits_append, ofDigits_append, ofDigits_replicate_zero]
    simp [ofDigits]
  have htext : '0' :: '.' :: (List.replicate k '0' ++ ds) ++ rest =
      ['0'] ++ '.' :: (List.replicate k '0' ++ ds ++ rest) := rfl
  rw [htext, readNumber_append_point isWhole_zero hdigit
    (List.append_ne_nil_of_right_ne_nil _ hds.ne_nil) hrest, hvalue, List.length_append,
    List.length_replicate]

/-- The point among the digits. -/
theorem readNumber_within (hds : IsCoefficient ds) {k : Nat} (hpos : 0 < k) (hk : k < ds.length)
    (hrest : EndsNumber rest) :
    readNumber limit (sign negative ++ (ds.take k ++ '.' :: ds.drop k ++ rest)) =
      .ok (.float (toDouble negative ⟨ofDigits ds, -(ds.length - k : Nat)⟩), rest) := by
  have htake : IsWhole (ds.take k) := by
    refine ⟨fun c hc => hds.isDigit c (List.mem_of_mem_take hc), ?_, ?_⟩
    · intro hnil
      rcases List.take_eq_nil_iff.mp hnil with hzero | hempty
      · exact absurd hzero hpos.ne'
      · exact hds.ne_nil hempty
    · intro hzero
      rw [List.head?_take, if_neg (by omega)] at hzero
      exact absurd hzero hds.head
  rw [List.append_assoc, List.cons_append, readNumber_append_point htake
    (fun c hc => hds.isDigit c (List.mem_of_mem_drop hc)) (by simp [hk]) hrest,
    List.take_append_drop, List.length_drop]

/-- The point behind the digits, with zeros between. -/
theorem readNumber_behind (hds : IsCoefficient ds) (k : Nat) (hrest : EndsNumber rest) :
    readNumber limit (sign negative ++ (ds ++ List.replicate k '0' ++ ['.', '0'] ++ rest)) =
      .ok (.float (toDouble negative ⟨ofDigits ds, k⟩), rest) := by
  have hzeros : ∀ c ∈ List.replicate k '0', c.isDigit = true := fun _ => isDigit_of_mem_zeros
  have htext : ds ++ List.replicate k '0' ++ ['.', '0'] ++ rest =
      (ds ++ List.replicate k '0') ++ '.' :: (['0'] ++ rest) := by simp
  have hvalue : ofDigits (ds ++ List.replicate k '0' ++ ['0']) = ofDigits ds * 10 ^ (k + 1) := by
    rw [List.append_assoc, show ['0'] = List.replicate 1 '0' from rfl,
      List.replicate_append_replicate, ofDigits_append, ofDigits_replicate_zero,
        List.length_replicate, Nat.add_zero]
  have hexponent : -(1 : Int) + (k + 1 : Nat) = k := by omega
  rw [htext, readNumber_append_point (hds.isWhole_append hzeros) (by simp) (by simp) hrest, hvalue,
    toDouble_mul_pow, List.length_singleton, Nat.cast_one, hexponent]

/-- The point may stand before, within or behind the digits. -/
theorem readNumber_positional (hds : IsCoefficient ds) (x : Int) (hrest : EndsNumber rest) :
    readNumber limit (sign negative ++ (Numeral.positional ds (x + ds.length) ++ rest)) =
      .ok (.float (toDouble negative ⟨ofDigits ds, x⟩), rest) := by
  unfold Numeral.positional
  split
  · next hbefore =>
    rw [readNumber_before hds _ hrest]
    have hexponent : -(((-(x + ds.length)).toNat + ds.length : Nat) : Int) = x := by omega
    rw [hexponent]
  · split
    · next hwithin hlt =>
      rw [readNumber_within hds (by omega) (by omega) hrest]
      have hexponent : -((ds.length - (x + ds.length).toNat : Nat) : Int) = x := by omega
      rw [hexponent]
    · next hbehind =>
      rw [readNumber_behind hds _ hrest]
      have hexponent : (((x + ds.length).toNat - ds.length : Nat) : Int) = x := by omega
      rw [hexponent]

/-- One digit before the point, if there is more than one, and the power of ten. -/
theorem readNumber_scientific (hds : IsCoefficient ds) (width : Nat) (x : Int)
    (hrest : NoDigit rest) :
    readNumber limit (sign negative ++ (Numeral.scientific width ds (x + ds.length - 1) ++ rest)) =
      .ok (.float (toDouble negative ⟨ofDigits ds, x⟩), rest) := by
  have hmark : NoDigit (Numeral.exponentText width (x + ds.length - 1) ++ rest) :=
    noDigit_cons (by decide)
  unfold Numeral.scientific
  split
  · exact absurd rfl hds.ne_nil
  · next c =>
    have hwhole : IsWhole [c] := ⟨hds.isDigit, hds.ne_nil, fun hzero => absurd hzero hds.head⟩
    rw [← List.singleton_append, List.append_assoc,
      readNumber_exponent (ne_minus_of_isWhole hwhole) (wholePart_append hwhole hmark) hwhole.ne_nil
        (fractionPart_of_ne (by simp [Numeral.exponentText]))
        (exponentPart_exponentText width _ hrest)]
    simp
  · next c cs hne =>
    have hwhole : IsWhole [c] := by
      refine ⟨?_, List.cons_ne_nil _ _, fun hzero => absurd hzero hds.head⟩
      intro d hd
      rw [List.mem_singleton.mp hd]
      exact hds.isDigit c (List.mem_cons_self ..)
    have hcs : ∀ d ∈ cs, d.isDigit = true := fun d hd => hds.isDigit d (List.mem_cons_of_mem _ hd)
    have htext : c :: '.' :: (cs ++ Numeral.exponentText width (x + (c :: cs).length - 1)) ++ rest =
        [c] ++ '.' :: (cs ++ (Numeral.exponentText width (x + (c :: cs).length - 1) ++ rest)) := by
      simp
    rw [htext, readNumber_exponent (ne_minus_of_isWhole hwhole)
      (wholePart_append hwhole (noDigit_cons (by decide))) hwhole.ne_nil
      (fractionPart_append hcs (by simpa using hne) hmark)
      (exponentPart_exponentText width _ hrest)]
    have hexponent : x + ((c :: cs).length : Int) - 1 - cs.length = x := by
      rw [List.length_cons]
      omega
    rw [hexponent, List.singleton_append]

/-- A numeral is read as the decimal that it writes, whatever decides its form. -/
theorem readNumber_ofDecimal (f : Numeral) (d : Decimal) (hrest : EndsNumber rest) :
    readNumber limit (sign negative ++ (f.ofDecimal d ++ rest)) =
      .ok (.float (d.toDouble negative), rest) := by
  unfold Numeral.ofDecimal
  split
  · next hzero =>
    have htext : ['0', '.', '0'] ++ rest = ['0'] ++ '.' :: (['0'] ++ rest) := rfl
    rw [htext, readNumber_append_point isWhole_zero (by simp) (by simp) hrest,
      toDouble_of_zero negative rfl, toDouble_of_zero negative hzero]
  · next hne =>
    have hds := isCoefficient_dropZeros (Nat.pos_of_ne_zero hne) d.exponent
    obtain ⟨k, hdigits, hx⟩ := dropZeros_spec (digits d.coefficient) d.exponent
    generalize dropZeros (digits d.coefficient) d.exponent = r at hds hdigits hx
    obtain ⟨ds, x⟩ := r
    have hsame : d.toDouble negative = toDouble negative ⟨ofDigits ds, x⟩ := by
      have hvalue := ofDigits_digits d.coefficient
      rw [hdigits, ofDigits_append, ofDigits_replicate_zero, List.length_replicate, Nat.add_zero]
        at hvalue
      obtain rfl : x = d.exponent + k := hx
      rw [← toDouble_mul_pow, hvalue]
    rw [hsame]
    dsimp only
    split
    · exact readNumber_positional hds x hrest
    · exact readNumber_scientific hds _ x hrest.noDigit

/-! ### Scalars that are not strings -/

theorem exists_cons_of_wholePart {body : List Char} (h : (wholePart body).1 ≠ []) :
    ∃ c t, body = c :: t ∧ c.isDigit = true := by
  unfold wholePart at h
  split at h
  · exact ⟨'0', _, rfl, by decide⟩
  · cases body with
    | nil => exact absurd rfl h
    | cons c t =>
      refine ⟨c, t, rfl, ?_⟩
      by_contra hc
      simp [hc] at h

/-- A number is a digit with what follows, perhaps after a sign. -/
theorem exists_eq_of_readNumber {cs : List Char} {r : Scalar × List Char}
    (h : readNumber limit cs = .ok r) : ∃ negative c t, cs = sign negative ++ c :: t ∧
    c.isDigit = true := by
  unfold readNumber at h
  split at h
  next negative body hsplit =>
  have hwhole : (wholePart body).1 ≠ [] := by
    intro hempty
    simp [hempty] at h
  obtain ⟨c, t, rfl, hc⟩ := exists_cons_of_wholePart hwhole
  split at hsplit
  · exact ⟨true, c, t, by rw [(Prod.mk.inj hsplit).2]; rfl, hc⟩
  · exact ⟨false, c, t, (Prod.mk.inj hsplit).2, hc⟩

/-- No word begins as a number does. -/
theorem readScalar_of_readNumber {cs : List Char} {r : Scalar × List Char}
    (h : readNumber limit cs = .ok r) : readScalar limit cs = .ok r := by
  unfold readScalar
  split
  case h_7 => exact h
  all_goals simp [readNumber, wholePart] at h

theorem readScalar_of_isDigit {c : Char} (hc : c.isDigit = true) (cs : List Char) :
    readScalar limit (c :: cs) = readNumber limit (c :: cs) := by
  unfold readScalar
  split
  case h_7 => rfl
  all_goals
    next heq =>
    obtain ⟨rfl, -⟩ := List.cons.inj heq
    exact absurd hc (by decide)

theorem readScalar_writeInt {i : Int} (hlimit : (digits i.natAbs).length ≤ limit)
    (hrest : EndsNumber rest) : readScalar limit (writeInt i ++ rest) = .ok (.int i, rest) :=
  readScalar_of_readNumber (readNumber_writeInt hlimit hrest)

/-- Every double is read back, the ones that are not finite by their words. -/
theorem readScalar_ofDouble (d : Double) (hrest : EndsNumber rest) :
    readScalar limit (numeral.ofDouble d ++ rest) = .ok (.float d, rest) := by
  cases d with
  | nan => rfl
  | infinite negative => cases negative <;> rfl
  | finite negative m e h =>
    have htext : numeral.ofDouble (.finite negative m e h) ++ rest =
        sign negative ++ (numeral.ofDecimal (if m = 0 then ⟨0, 0⟩ else .shortest m e) ++ rest) :=
      List.append_assoc _ _ _
    rw [htext]
    apply readScalar_of_readNumber
    rw [readNumber_ofDecimal _ _ hrest]
    rcases Nat.eq_zero_or_pos m with rfl | hm
    · obtain rfl : e = -1074 := by
        obtain ⟨-, -, -, hfull | hleast⟩ := h
        · exact absurd hfull (by decide)
        · exact hleast
      rw [if_pos rfl, toDouble_of_zero negative rfl]
      rfl
    · rw [if_neg hm.ne', toDouble_shortest negative h hm]

/-- Different doubles are written differently. -/
theorem numeral_ofDouble_injective (d d' : Double) (h : numeral.ofDouble d = numeral.ofDouble d') :
    d = d' := by
  have hread : readScalar 0 (numeral.ofDouble d ++ []) = .ok (.float d, []) :=
    readScalar_ofDouble d endsNumber_nil
  rw [h, readScalar_ofDouble d' endsNumber_nil] at hread
  exact (Scalar.float.inj (Prod.mk.inj (Except.ok.inj hread)).1).symm

/-- What begins a scalar that is not a string. -/
def BeginsScalar (c : Char) : Prop := c.isDigit = true ∨ c ∈ ['-', 'n', 't', 'f', 'N', 'I']

instance : DecidablePred BeginsScalar := fun _ => inferInstanceAs (Decidable (_ ∨ _))

theorem beginsScalar_of_readScalar {cs : List Char} {r : Scalar × List Char}
    (h : readScalar limit cs = .ok r) : ∃ c t, cs = c :: t ∧ BeginsScalar c := by
  unfold readScalar at h
  split at h
  case h_7 =>
    obtain ⟨negative, c, t, rfl, hc⟩ := exists_eq_of_readNumber h
    cases negative with
    | false => exact ⟨c, t, rfl, .inl hc⟩
    | true => exact ⟨'-', c :: t, rfl, .inr (by simp)⟩
  all_goals exact ⟨_, _, rfl, .inr (by simp)⟩

end ServiceMigration.Json
