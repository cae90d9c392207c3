import ServiceMigration.Number.Decimal
import ServiceMigration.Proofs.Number.Nearest
/-!
# Decimals and the doubles they stand for

A decimal stands for the rational number `coefficient · 10 ^ exponent`, and the double that it is
read as depends on that number alone (`toDouble_congr`), so zeros at the end of the coefficient
change nothing.  Main statement: the decimal that is chosen for a double is read as that double
(`toDouble_shortest`).
-/

namespace ServiceMigration

namespace Decimal

/-! ### Digits -/

theorem ofDigits_eq (cs : List Char) : ofDigits cs = Nat.ofDigitChars 10 cs 0 := rfl

@[simp] theorem ofDigits_digits (n : Nat) : ofDigits (digits n) = n := by
  rw [ofDigits_eq, digits, Nat.ofDigitChars_ten_toDigits]

theorem ofDigits_append (cs ds : List Char) :
    ofDigits (cs ++ ds) = ofDigits cs * 10 ^ ds.length + ofDigits ds := by
  rw [ofDigits_eq, Nat.ofDigitChars_append, Nat.ofDigitChars_eq_ofDigitChars_zero, Nat.mul_comm]
  rfl

@[simp] theorem ofDigits_replicate_zero (k : Nat) : ofDigits (List.replicate k '0') = 0 := by
  rw [ofDigits_eq, Nat.ofDigitChars_replicate_zero, Nat.mul_zero]

theorem isDigit_of_mem_digits {c : Char} {n : Nat} (h : c ∈ digits n) : c.isDigit = true :=
  Nat.isDigit_of_mem_toDigits (by decide) (by decide) h

theorem digits_ne_nil (n : Nat) : digits n ≠ [] := Nat.toDigits_ne_nil

theorem digits_of_lt {n : Nat} (h : n < 10) : digits n = [n.digitChar] := Nat.toDigits_of_lt_base h

theorem digits_of_le {n : Nat} (h : 10 ≤ n) : digits n = digits (n / 10) ++ [(n % 10).digitChar] :=
  Nat.toDigits_of_base_le (by decide) h

theorem ofDigits_lt_pow {ds : List Char} (h : ∀ c ∈ ds, c.isDigit = true) :
    ofDigits ds < 10 ^ ds.length := by
  induction ds using List.reverseRecOn with
  | nil => decide
  | append_singleton ds c ih =>
    have hc : c.toNat - '0'.toNat ≤ 9 := by
      have hdigit := h c (by simp)
      simp only [Char.isDigit, ge_iff_le, Bool.and_eq_true, decide_eq_true_eq,
        UInt32.le_iff_toNat_le] at hdigit
      have : c.toNat = c.val.toNat := rfl
      simp at hdigit ⊢
      omega
    have hds := ih fun c hc => h c (List.mem_append_left _ hc)
    rw [ofDigits_append, List.length_append, List.length_singleton, pow_one,
      pow_succ _ ds.length]
    have hlast : ofDigits [c] ≤ 9 := by simpa [ofDigits] using hc
    omega

/-- A number is written with no more digits than it was spelled with. -/
theorem length_digits_ofDigits_le {ds : List Char} (h : ∀ c ∈ ds, c.isDigit = true)
    (hne : ds ≠ []) : (digits (ofDigits ds)).length ≤ ds.length := by
  rw [digits, Nat.length_toDigits_le_iff (by decide) (List.length_pos_of_ne_nil hne)]
  exact ofDigits_lt_pow h

theorem length_digits_le_of_le {n bound : Nat} (h : n ≤ bound) :
    (digits n).length ≤ (digits bound).length := by
  have hbound := ofDigits_lt_pow fun _ => isDigit_of_mem_digits (n := bound)
  rw [ofDigits_digits] at hbound
  rw [digits, Nat.length_toDigits_le_iff (by decide) (List.length_pos_of_ne_nil (digits_ne_nil _))]
  exact h.trans_lt hbound

/-- The digits of a number are those that were spelled after its sign. -/
theorem natAbs_signed (negative : Bool) (n : Nat) :
    (if negative then -(n : Int) else n).natAbs = n := by
  cases negative <;> simp

/-- A number greater than zero does not begin with a zero. -/
theorem head?_digits_ne {n : Nat} (hn : 0 < n) : (digits n).head? ≠ some '0' := by
  induction n using Nat.strongRecOn with
  | _ n ih =>
    rcases Nat.lt_or_ge n 10 with hlt | hge
    · rw [digits_of_lt hlt]
      simp [Nat.digitChar_eq_zero]
      omega
    · rw [digits_of_le hge, List.head?_append_of_ne_nil _ (digits_ne_nil _)]
      exact ih (n / 10) (by omega) (by omega)

/-! ### The number that a decimal stands for -/

def value (d : Decimal) : ℚ := d.coefficient * 10 ^ d.exponent

theorem value_pos {d : Decimal} (h : d.coefficient ≠ 0) : 0 < d.value := by
  unfold value
  positivity

theorem value_eq_zero_iff {d : Decimal} : d.value = 0 ↔ d.coefficient = 0 := by
  constructor
  · intro h
    by_contra hne
    exact (value_pos hne).ne' h
  · intro h
    simp [value, h]

/-- The number of digits is known from the number. -/
theorem length_digits_add {d : Decimal} (h : d.coefficient ≠ 0) :
    ((digits d.coefficient).length : Int) + d.exponent = Int.log 10 d.value + 1 := by
  have hpos : 0 < (digits d.coefficient).length := Nat.length_toDigits_pos
  set k := (digits d.coefficient).length with hk
  have hlt : d.coefficient < 10 ^ k :=
    (Nat.length_toDigits_le_iff (by decide) hpos).mp (Nat.le_of_eq hk.symm)
  have hle : 10 ^ (k - 1) ≤ d.coefficient := by
    by_contra hnot
    rcases Nat.eq_zero_or_pos (k - 1) with hzero | hmore
    · simp [hzero] at hnot
      exact h hnot
    · have := (Nat.length_toDigits_le_iff (by decide) hmore).mpr (not_le.mp hnot)
      change (digits d.coefficient).length ≤ k - 1 at this
      omega
  have hlt' : (d.coefficient : ℚ) < 10 ^ (k : Int) := by exact_mod_cast hlt
  have hle' : (10 : ℚ) ^ ((k : Int) - 1) ≤ d.coefficient := by
    rw [show (k : Int) - 1 = ((k - 1 : Nat) : Int) by omega, zpow_natCast]
    exact_mod_cast hle
  have hlog₁ : Int.log 10 d.value < k + d.exponent := by
    refine (Int.lt_zpow_iff_log_lt (by norm_num) (value_pos h)).mp ?_
    push_cast
    rw [value, zpow_add₀ (by norm_num)]
    gcongr
  have hlog₂ : (k : Int) - 1 + d.exponent ≤ Int.log 10 d.value := by
    refine (Int.zpow_le_iff_le_log (by norm_num) (value_pos h)).mp ?_
    push_cast
    rw [value, zpow_add₀ (by norm_num)]
    gcongr
  omega

/-- A decimal as a ratio. -/
def ratio (d : Decimal) : Nat × Nat :=
  if 0 ≤ d.exponent then (d.coefficient * Nat.pow 10 d.exponent.toNat, 1)
  else (d.coefficient, Nat.pow 10 (-d.exponent).toNat)

theorem ratio_snd_pos (d : Decimal) : 0 < d.ratio.2 := by
  unfold ratio
  split
  · exact Nat.one_pos
  · exact Nat.pow_pos (by decide)

theorem ratio_div (d : Decimal) : (d.ratio.1 : ℚ) / d.ratio.2 = d.value := by
  unfold ratio value
  split
  · next he =>
    obtain ⟨k, hk⟩ := Int.eq_ofNat_of_zero_le he
    rw [hk, Int.toNat_natCast, zpow_natCast, Nat.pow_eq]
    push_cast
    rw [div_one]
  · next he =>
    obtain ⟨k, hk⟩ := Int.exists_eq_neg_ofNat (show d.exponent ≤ 0 by omega)
    rw [hk, neg_neg, Int.toNat_natCast, Nat.pow_eq, zpow_neg,
      zpow_natCast]
    push_cast
    rw [div_eq_mul_inv]

theorem toDouble_of_zero (negative : Bool) {d : Decimal} (h : d.coefficient = 0) :
    d.toDouble negative = .zero negative := by
  rw [toDouble, if_pos h]

theorem toDouble_eq (negative : Bool) {d : Decimal} (h : d.coefficient ≠ 0) :
    d.toDouble negative =
      if 400 < Int.log 10 d.value + 1 then .infinite negative
      else if Int.log 10 d.value + 1 < -400 then .zero negative
      else .ofRatio negative d.ratio.1 d.ratio.2 := by
  rw [← length_digits_add h]
  by_cases he : 0 ≤ d.exponent <;> simp only [toDouble, ratio, h, he, if_false, if_true, gt_iff_lt]

/-- The double that a decimal is read as depends only on the number that it stands for. -/
theorem toDouble_congr (negative : Bool) {d d' : Decimal} (h : d.value = d'.value) :
    d.toDouble negative = d'.toDouble negative := by
  by_cases hzero : d.coefficient = 0
  · have hzero' : d'.coefficient = 0 := by
      rw [← value_eq_zero_iff, ← h, value_eq_zero_iff]
      exact hzero
    rw [toDouble_of_zero negative hzero, toDouble_of_zero negative hzero']
  · have hzero' : d'.coefficient ≠ 0 := by
      rw [Ne, ← value_eq_zero_iff, ← h, value_eq_zero_iff]
      exact hzero
    have hratio : (d.ratio.1 : ℚ) / d.ratio.2 = d'.ratio.1 / d'.ratio.2 := by
      rw [ratio_div, ratio_div, h]
    rw [toDouble_eq negative hzero, toDouble_eq negative hzero', h,
      Double.ofRatio_congr negative (ratio_snd_pos d) (ratio_snd_pos d') hratio]

/-- Zeros at the end of a coefficient may be moved to the exponent. -/
theorem toDouble_mul_pow (negative : Bool) (c k : Nat) (x : Int) :
    toDouble negative ⟨c * 10 ^ k, x⟩ = toDouble negative ⟨c, x + k⟩ := by
  apply toDouble_congr
  simp only [value]
  rw [zpow_add₀ (by norm_num), zpow_natCast]
  push_cast
  ring

/-! ### The decimal of a double -/

theorem two_zpow_le_ten_zpow : (2 : ℚ) ^ (1200 : Int) ≤ 10 ^ (400 : Int) := by
  calc (2 : ℚ) ^ (1200 : Int) = (2 ^ (3 : Int)) ^ (400 : Int) := by rw [← zpow_mul]; rfl
    _ ≤ 10 ^ (400 : Int) := zpow_le_zpow_left₀ (by norm_num) (by norm_num) (by norm_num)

/-- A decimal that stands for a double is read as it. -/
theorem toDouble_of_value (negative : Bool) {d : Decimal} {m : Nat} {e : Int}
    (h : Double.Canonical m e) (hm : 0 < m) (hvalue : d.value = m * 2 ^ e) :
    d.toDouble negative = .finite negative m e h := by
  have hpos : (0 : ℚ) < m * 2 ^ e := by positivity
  have hne : d.coefficient ≠ 0 := by
    rw [Ne, ← value_eq_zero_iff, hvalue]
    exact hpos.ne'
  have hlt : (m : ℚ) < 2 ^ (53 : Int) := by exact_mod_cast h.1
  have hleast : -1074 ≤ e := h.2.1
  have hmost : e ≤ 971 := h.2.2.1
  have hone : (1 : ℚ) ≤ m := by exact_mod_cast hm
  have hhigh : Int.log 10 d.value < 400 := by
    refine (Int.lt_zpow_iff_log_lt (by norm_num) (hvalue ▸ hpos)).mp ?_
    calc d.value = m * 2 ^ e := hvalue
      _ < 2 ^ (53 : Int) * 2 ^ e := by gcongr
      _ = 2 ^ (53 + e) := (zpow_add₀ two_ne_zero _ _).symm
      _ ≤ 2 ^ (1200 : Int) := zpow_le_zpow_right₀ one_le_two (by omega)
      _ ≤ 10 ^ (400 : Int) := two_zpow_le_ten_zpow
  have hlow : -400 ≤ Int.log 10 d.value := by
    refine (Int.zpow_le_iff_le_log (by norm_num) (hvalue ▸ hpos)).mp ?_
    calc (10 : ℚ) ^ (-400 : Int) ≤ 2 ^ (-1200 : Int) := by
          rw [zpow_neg, zpow_neg]
          exact inv_anti₀ (by positivity) two_zpow_le_ten_zpow
      _ ≤ 2 ^ e := zpow_le_zpow_right₀ one_le_two (by omega)
      _ ≤ m * 2 ^ e := le_mul_of_one_le_left (by positivity) hone
      _ = d.value := hvalue.symm
  rw [toDouble_eq negative hne, if_neg (by omega), if_neg (by omega),
    ← Double.ofRatio_magnitude negative h]
  apply Double.ofRatio_congr negative (ratio_snd_pos d) (Double.magnitude_snd_pos m e)
  rw [ratio_div, Double.magnitude_div, hvalue]

theorem value_exact (m : Nat) (e : Int) : (exact m e).value = m * 2 ^ e := by
  unfold exact value
  split
  · next he =>
    obtain ⟨k, rfl⟩ := Int.eq_ofNat_of_zero_le he
    simp [Nat.shiftLeft_eq]
  · next he =>
    obtain ⟨k, rfl⟩ := Int.exists_eq_neg_ofNat (show e ≤ 0 by omega)
    rw [neg_neg, Int.toNat_natCast, Nat.pow_eq, zpow_neg, zpow_neg, zpow_natCast, zpow_natCast]
    push_cast
    rw [show (10 : ℚ) = 5 * 2 by norm_num, mul_pow]
    field_simp

end Decimal

namespace Double

/-- The double with another sign. -/
def signed (negative : Bool) : Double → Double
  | .nan => .nan
  | .infinite _ => .infinite negative
  | .finite _ m e h => .finite negative m e h

theorem signed_pack (negative s : Bool) (m : Nat) (e : Int) :
    (pack s m e).signed negative = pack negative m e := by
  unfold pack
  split <;> rfl

theorem signed_ofRatio (negative s : Bool) (n d : Nat) :
    (ofRatio s n d).signed negative = ofRatio negative n d := by
  unfold ofRatio
  split
  · rfl
  · dsimp only
    split <;> exact signed_pack ..

end Double

namespace Decimal

theorem signed_toDouble (negative s : Bool) (d : Decimal) :
    (d.toDouble s).signed negative = d.toDouble negative := by
  unfold toDouble
  dsimp only
  split
  · rfl
  · split
    · rfl
    · split
      · rfl
      · split <;> exact Double.signed_ofRatio ..

theorem toDouble_of_onGrid? {m : Nat} {e x : Int} {d : Decimal} (h : onGrid? m e x = some d) :
    d.toDouble false = Double.pack false m e := by
  unfold onGrid? at h
  dsimp only at h
  generalize (if 0 ≤ x then _ else _ : Nat × Nat) = r at h
  split at h
  · next hbelow habove =>
    obtain rfl := Option.some.inj h
    split
    · exact eq_of_beq hbelow
    · exact eq_of_beq habove
  · next hbelow _ =>
    obtain rfl := Option.some.inj h
    exact eq_of_beq hbelow
  · next _ habove =>
    obtain rfl := Option.some.inj h
    exact eq_of_beq habove
  · simp at h

/-- The decimal that is chosen for a double is read as that double. -/
theorem toDouble_shortest (negative : Bool) {m : Nat} {e : Int} (h : Double.Canonical m e)
    (hm : 0 < m) : (shortest m e).toDouble negative = .finite negative m e h := by
  unfold shortest
  dsimp only
  cases hfound : (List.range 17).findSome? fun k =>
      onGrid? m e
        (magnitudeOf (Double.magnitude m e).1 (Double.magnitude m e).2 - (k + 1 : Nat)) with
  | none =>
    rw [Option.getD_none]
    exact toDouble_of_value negative h hm (value_exact m e)
  | some d =>
    obtain ⟨k, -, hk⟩ := List.exists_of_findSome?_eq_some hfound
    rw [Option.getD_some, ← signed_toDouble negative false, toDouble_of_onGrid? hk,
      Double.signed_pack, Double.pack, dif_pos h]

end Decimal

end ServiceMigration
