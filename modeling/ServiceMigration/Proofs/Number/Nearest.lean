import Mathlib.Algebra.Order.Field.Power
import Mathlib.Data.Int.Log
import Mathlib.Data.Rat.Floor
import Mathlib.Tactic.Positivity
import Mathlib.Tactic.Ring
import ServiceMigration.Number.Double
/-!
# The nearest double

`Double.ofRatio` takes a ratio of natural numbers to a double.  Main statements: what it gives
depends on the quotient alone (`ofRatio_mul_right`), and a quotient that is a double is taken to
that double (`ofRatio_magnitude`).  Both come from one fact on the exponent that is chosen: it is
the binary logarithm of the quotient, less the 52 bits that follow the first one, as far as the
format goes (`exponentFor_eq`).
-/

namespace ServiceMigration.Double

/-! ### The exponent -/

theorem log2_bounds {n : Nat} (hn : 0 < n) :
    (2 : ℚ) ^ (n.log2 : Int) ≤ n ∧ (n : ℚ) < 2 ^ ((n.log2 : Int) + 1) := by
  constructor
  · have hle : 2 ^ n.log2 ≤ n := Nat.log2_self_le (by omega)
    rw [zpow_natCast]
    exact_mod_cast hle
  · have hlt : n < 2 ^ (n.log2 + 1) := Nat.lt_log2_self
    rw [show (n.log2 : Int) + 1 = ((n.log2 + 1 : Nat) : Int) by push_cast; rfl, zpow_natCast]
    exact_mod_cast hlt

theorem scaleRatio_snd_pos {d : Nat} (n : Nat) (e : Int) (hd : 0 < d) :
    0 < (scaleRatio n d e).2 := by
  unfold scaleRatio
  split
  · rw [Nat.shiftLeft_eq]
    positivity
  · exact hd

/-- A scaled ratio is the ratio divided by the power of two. -/
theorem scaleRatio_div (n d : Nat) (e : Int) :
    ((scaleRatio n d e).1 : ℚ) / (scaleRatio n d e).2 = (n : ℚ) / d / 2 ^ e := by
  unfold scaleRatio
  split
  · next he =>
    obtain ⟨k, rfl⟩ := Int.eq_ofNat_of_zero_le he
    rw [Int.toNat_natCast, Nat.shiftLeft_eq, zpow_natCast]
    push_cast
    rw [div_div]
  · next he =>
    obtain ⟨k, rfl⟩ := Int.exists_eq_neg_ofNat (show e ≤ 0 by omega)
    rw [neg_neg, Int.toNat_natCast, Nat.shiftLeft_eq, zpow_neg, zpow_natCast, div_inv_eq_mul]
    push_cast
    ring

/-- The exponent is the binary logarithm of the quotient less 52, or the least one. -/
theorem exponentFor_eq {n d : Nat} (hn : 0 < n) (hd : 0 < d) :
    exponentFor n d = max (Int.log 2 ((n : ℚ) / d) - 52) (-1074) := by
  have hq : (0 : ℚ) < (n : ℚ) / d := by positivity
  obtain ⟨hnle, hnlt⟩ := log2_bounds hn
  obtain ⟨hdle, hdlt⟩ := log2_bounds hd
  set k : Int := (n.log2 : Int) - (d.log2 : Int) - 52 with hk
  -- The quotient lies within a factor of two of the quotient of the two powers.
  have hlow : (2 : ℚ) ^ (k + 51) < (n : ℚ) / d := by
    rw [lt_div_iff₀ (by positivity)]
    calc (2 : ℚ) ^ (k + 51) * d < 2 ^ (k + 51) * 2 ^ ((d.log2 : Int) + 1) := by gcongr
      _ = 2 ^ (n.log2 : Int) := by rw [← zpow_add₀ two_ne_zero]; congr 1; omega
      _ ≤ n := hnle
  have hhigh : (n : ℚ) / d < 2 ^ (k + 53) := by
    rw [div_lt_iff₀ (by positivity)]
    calc (n : ℚ) < 2 ^ ((n.log2 : Int) + 1) := hnlt
      _ = 2 ^ (k + 53) * 2 ^ (d.log2 : Int) := by rw [← zpow_add₀ two_ne_zero]; congr 1; omega
      _ ≤ 2 ^ (k + 53) * d := by gcongr
  have hbelow : (scaleRatio n d k).1 < (scaleRatio n d k).2 <<< 52 ↔
      (n : ℚ) / d < 2 ^ (k + 52) := by
    have hpos : (0 : ℚ) < (scaleRatio n d k).2 := by exact_mod_cast scaleRatio_snd_pos n k hd
    rw [Nat.shiftLeft_eq, ← Nat.cast_lt (α := ℚ), Nat.cast_mul, mul_comm, ← div_lt_iff₀ hpos,
      scaleRatio_div, div_lt_iff₀ (by positivity), zpow_add₀ two_ne_zero, mul_comm]
    norm_num
  have hlog : (if (scaleRatio n d k).1 < (scaleRatio n d k).2 <<< 52 then k - 1 else k) =
      Int.log 2 ((n : ℚ) / d) - 52 := by
    split
    · next hlt =>
      have h₁ : Int.log 2 ((n : ℚ) / d) < k + 52 :=
        (Int.lt_zpow_iff_log_lt (by norm_num) hq).mp (by exact_mod_cast hbelow.mp hlt)
      have h₂ : k + 51 ≤ Int.log 2 ((n : ℚ) / d) :=
        (Int.zpow_le_iff_le_log (by norm_num) hq).mp (by exact_mod_cast hlow.le)
      omega
    · next hnlt =>
      have h₁ : Int.log 2 ((n : ℚ) / d) < k + 53 :=
        (Int.lt_zpow_iff_log_lt (by norm_num) hq).mp (by exact_mod_cast hhigh)
      have h₂ : k + 52 ≤ Int.log 2 ((n : ℚ) / d) :=
        (Int.zpow_le_iff_le_log (by norm_num) hq).mp
          (by exact_mod_cast not_lt.mp (mt hbelow.mpr hnlt))
      omega
  rw [← hlog]
  rfl

/-! ### The quotient decides -/

theorem roundDiv_mul_right (n d : Nat) {k : Nat} (hk : 0 < k) :
    roundDiv (n * k) (d * k) = roundDiv n d := by
  have hlt : ∀ a b : Nat, 2 * (a * k) < b * k ↔ 2 * a < b := fun a b => by
    rw [← Nat.mul_assoc]
    exact Nat.mul_lt_mul_right hk
  have hgt : ∀ a b : Nat, b * k < 2 * (a * k) ↔ b < 2 * a := fun a b => by
    rw [← Nat.mul_assoc]
    exact Nat.mul_lt_mul_right hk
  simp only [roundDiv, Nat.mul_div_mul_right _ _ hk, Nat.mul_mod_mul_right, hlt, hgt]

theorem scaleRatio_mul_right (n d k : Nat) (e : Int) :
    scaleRatio (n * k) (d * k) e = ((scaleRatio n d e).1 * k, (scaleRatio n d e).2 * k) := by
  unfold scaleRatio
  split <;> simp only [Nat.shiftLeft_eq, Nat.mul_right_comm]

theorem exponentFor_mul_right {n d k : Nat} (hn : 0 < n) (hd : 0 < d) (hk : 0 < k) :
    exponentFor (n * k) (d * k) = exponentFor n d := by
  have hk' : (k : ℚ) ≠ 0 := by positivity
  rw [exponentFor_eq (by positivity) (by positivity), exponentFor_eq hn hd]
  push_cast
  rw [mul_div_mul_right _ _ hk']

/-- The nearest double to a ratio depends on the quotient alone. -/
theorem ofRatio_mul_right (negative : Bool) (n : Nat) {d k : Nat} (hd : 0 < d) (hk : 0 < k) :
    ofRatio negative (n * k) (d * k) = ofRatio negative n d := by
  rcases Nat.eq_zero_or_pos n with rfl | hn
  · simp [ofRatio]
  · have hn' : n ≠ 0 := by omega
    have hnk : n * k ≠ 0 := by positivity
    simp only [ofRatio, hn', hnk, if_false, exponentFor_mul_right hn hd hk, scaleRatio_mul_right,
      roundDiv_mul_right _ _ hk]

theorem ofRatio_congr (negative : Bool) {n d n' d' : Nat} (hd : 0 < d) (hd' : 0 < d')
    (h : (n : ℚ) / d = n' / d') : ofRatio negative n d = ofRatio negative n' d' := by
  have hne : (d : ℚ) ≠ 0 := by positivity
  have hne' : (d' : ℚ) ≠ 0 := by positivity
  have hcross : n * d' = n' * d := by
    rw [div_eq_div_iff hne hne'] at h
    exact_mod_cast h
  rw [← ofRatio_mul_right negative n hd hd', hcross, Nat.mul_comm d d',
    ofRatio_mul_right negative n' hd' hd]

/-! ### Doubles are their own nearest -/

theorem magnitude_snd_pos (m : Nat) (e : Int) : 0 < (magnitude m e).2 := by
  unfold magnitude
  split
  · exact Nat.one_pos
  · rw [Nat.shiftLeft_eq]
    positivity

theorem magnitude_div (m : Nat) (e : Int) :
    ((magnitude m e).1 : ℚ) / (magnitude m e).2 = m * 2 ^ e := by
  unfold magnitude
  split
  · next he =>
    obtain ⟨k, rfl⟩ := Int.eq_ofNat_of_zero_le he
    rw [Int.toNat_natCast, Nat.shiftLeft_eq, zpow_natCast]
    push_cast
    rw [div_one]
  · next he =>
    obtain ⟨k, rfl⟩ := Int.exists_eq_neg_ofNat (show e ≤ 0 by omega)
    rw [neg_neg, Int.toNat_natCast, Nat.shiftLeft_eq, zpow_neg, zpow_natCast]
    push_cast
    rw [one_mul, div_eq_mul_inv]

theorem magnitude_fst_pos {m : Nat} (e : Int) (hm : 0 < m) : 0 < (magnitude m e).1 := by
  unfold magnitude
  split
  · rw [Nat.shiftLeft_eq]
    positivity
  · exact hm

theorem exponentFor_magnitude {m : Nat} {e : Int} (h : Canonical m e) (hm : 0 < m) :
    exponentFor (magnitude m e).1 (magnitude m e).2 = e := by
  obtain ⟨hlt, hleast, -, hfull⟩ := h
  have hq : (0 : ℚ) < m * 2 ^ e := by positivity
  have hlt' : (m : ℚ) < 2 ^ (53 : Int) := by exact_mod_cast hlt
  have hlog : Int.log 2 ((m : ℚ) * 2 ^ e) < e + 53 := by
    refine (Int.lt_zpow_iff_log_lt (by norm_num) hq).mp ?_
    push_cast
    rw [add_comm, zpow_add₀ two_ne_zero]
    gcongr
  rw [exponentFor_eq (magnitude_fst_pos e hm) (magnitude_snd_pos m e), magnitude_div]
  rcases hfull with hfull | rfl
  · have hfull' : (2 : ℚ) ^ (52 : Int) ≤ m := by exact_mod_cast hfull
    have hlog' : e + 52 ≤ Int.log 2 ((m : ℚ) * 2 ^ e) := by
      refine (Int.zpow_le_iff_le_log (by norm_num) hq).mp ?_
      push_cast
      rw [add_comm, zpow_add₀ two_ne_zero]
      gcongr
    omega
  · omega

theorem roundDiv_mul_self (m : Nat) {b : Nat} (hb : 0 < b) : roundDiv (m * b) b = m := by
  simp [roundDiv, Nat.mul_div_cancel m hb, hb]

/-- A ratio that is a double is taken to that double. -/
theorem ofRatio_magnitude (negative : Bool) {m : Nat} {e : Int} (h : Canonical m e) :
    ofRatio negative (magnitude m e).1 (magnitude m e).2 = .finite negative m e h := by
  rcases Nat.eq_zero_or_pos m with rfl | hm
  · obtain rfl : e = -1074 := h.2.2.2.resolve_left (by decide)
    rfl
  · have hscaled : (scaleRatio (magnitude m e).1 (magnitude m e).2 e).1 =
        m * (scaleRatio (magnitude m e).1 (magnitude m e).2 e).2 := by
      have hpos : (0 : ℚ) < (scaleRatio (magnitude m e).1 (magnitude m e).2 e).2 := by
        exact_mod_cast scaleRatio_snd_pos (magnitude m e).1 e (magnitude_snd_pos m e)
      have hdiv := scaleRatio_div (magnitude m e).1 (magnitude m e).2 e
      rw [magnitude_div, mul_div_assoc, div_self (by positivity), mul_one,
        div_eq_iff hpos.ne'] at hdiv
      exact_mod_cast hdiv
    have hne : (magnitude m e).1 ≠ 0 := (magnitude_fst_pos e hm).ne'
    have hround : roundDiv (scaleRatio (magnitude m e).1 (magnitude m e).2 e).1
        (scaleRatio (magnitude m e).1 (magnitude m e).2 e).2 = m := by
      rw [hscaled]
      exact roundDiv_mul_self m (scaleRatio_snd_pos _ e (magnitude_snd_pos m e))
    simp only [ofRatio, hne, if_false, exponentFor_magnitude h hm, hround, h.1.ne, pack, h, dif_pos]

end ServiceMigration.Double
