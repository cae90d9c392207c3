import Mathlib.Algebra.Order.Ring.Rat
import Mathlib.Data.Nat.Cast.Field
import Mathlib.Order.WithBot
import ServiceMigration.Proofs.Number.Nearest
/-!
# The number that a double is

A double is a rational number or one of the two ends of the line; no NaN is a number
(`Double.extended?`).  A double without a fraction is taken for the whole number that it is,
whatever its size (`Double.extended?_of_toInt?`).
-/

namespace ServiceMigration

/-- The rational numbers with both ends of the line. -/
abbrev Extended := WithBot (WithTop ℚ)

def Extended.ofRat (q : ℚ) : Extended := ((q : WithTop ℚ) : WithBot (WithTop ℚ))

theorem Extended.ofRat_le_ofRat {p q : ℚ} : ofRat p ≤ ofRat q ↔ p ≤ q := by
  rw [ofRat, ofRat, WithBot.coe_le_coe, WithTop.coe_le_coe]

theorem Extended.ofRat_lt_ofRat {p q : ℚ} : ofRat p < ofRat q ↔ p < q := by
  rw [ofRat, ofRat, WithBot.coe_lt_coe, WithTop.coe_lt_coe]

namespace Double

/-- The value of a finite double. -/
def signedValue (negative : Bool) (m : Nat) (e : Int) : ℚ :=
  if negative then -(m * 2 ^ e) else m * 2 ^ e

/-- The number that a double is, if it is one. -/
def extended? : Double → Option Extended
  | .nan => none
  | .infinite negative => some (if negative then ⊥ else ⊤)
  | .finite negative m e _ => some (.ofRat (signedValue negative m e))

/-- A magnitude without a fraction is its quotient. -/
theorem natCast_magnitude {m : Nat} {e : Int} (h : (magnitude m e).1 % (magnitude m e).2 = 0) :
    (((magnitude m e).1 / (magnitude m e).2 : Nat) : ℚ) = m * 2 ^ e := by
  have hpos : ((magnitude m e).2 : ℚ) ≠ 0 := by exact_mod_cast (magnitude_snd_pos m e).ne'
  rw [Nat.cast_div (Nat.dvd_of_mod_eq_zero h) hpos, magnitude_div]

theorem extended?_of_toInt? {d : Double} {i : Int} (h : d.toInt? = some i) :
    d.extended? = some (.ofRat i) := by
  cases d with
  | nan => cases h
  | infinite negative => cases h
  | finite negative m e canonical =>
    have hint : (if (magnitude m e).1 % (magnitude m e).2 = 0 then
        some (if negative then -(((magnitude m e).1 / (magnitude m e).2 : Nat) : Int)
          else (((magnitude m e).1 / (magnitude m e).2 : Nat) : Int)) else none) = some i := h
    split at hint
    · next hwhole =>
      rw [extended?, signedValue, ← natCast_magnitude hwhole, ← Option.some.inj hint]
      generalize (magnitude m e).1 / (magnitude m e).2 = size
      cases negative <;> simp
    · cases hint

end Double

end ServiceMigration
