/-!
# Double precision numbers, exactly

A number of the binary64 format as the data it stands for: a sign, a significand and a power of two.
Nothing here rounds by machine arithmetic: `Double.ofRatio` is the one place where a value becomes
the nearest double, by integer division, ties to the even significand.
-/

namespace ServiceMigration

/-- The forms in which binary64 holds `m · 2 ^ e`: a full significand, or the least exponent. -/
def Double.Canonical (m : Nat) (e : Int) : Prop :=
  m < Nat.pow 2 53 ∧ -1074 ≤ e ∧ e ≤ 971 ∧ (Nat.pow 2 52 ≤ m ∨ e = -1074)

instance (m : Nat) (e : Int) : Decidable (Double.Canonical m e) := by
  unfold Double.Canonical
  infer_instance

/-- A binary64 number.  All NaNs are one; zero has a sign. -/
inductive Double where
  | nan
  | infinite (negative : Bool)
  | finite (negative : Bool) (m : Nat) (e : Int) (canonical : Double.Canonical m e)
  deriving DecidableEq, Repr

namespace Double

/-- Zero with a sign. -/
def zero (negative : Bool) : Double := .finite negative 0 (-1074) (by decide)

/-- `m · 2 ^ e` where that is a canonical form; what does not fit is infinite. -/
def pack (negative : Bool) (m : Nat) (e : Int) : Double :=
  if h : Canonical m e then .finite negative m e h else .infinite negative

/-- The quotient rounded to the nearest whole number, a tie to the even one. -/
def roundDiv (n d : Nat) : Nat :=
  let q := n / d
  let r := n % d
  if 2 * r < d then q else if d < 2 * r then q + 1 else if q % 2 = 0 then q else q + 1

/-- `n / d` divided by `2 ^ e`, again as a ratio. -/
def scaleRatio (n d : Nat) (e : Int) : Nat × Nat :=
  if 0 ≤ e then (n, d <<< e.toNat) else (n <<< (-e).toNat, d)

/-- The exponent at which the ratio has a significand of 53 bits, or the least exponent. -/
def exponentFor (n d : Nat) : Int :=
  let k : Int := (n.log2 : Int) - (d.log2 : Int) - 52
  let (a, b) := scaleRatio n d k
  max (if a < b <<< 52 then k - 1 else k) (-1074)

/-- The double nearest to `n / d`. -/
def ofRatio (negative : Bool) (n d : Nat) : Double :=
  if n = 0 then zero negative
  else
    let e := exponentFor n d
    let (a, b) := scaleRatio n d e
    let q := roundDiv a b
    if q = Nat.pow 2 53 then pack negative (Nat.pow 2 52) (e + 1) else pack negative q e

def ofInt (i : Int) : Double := ofRatio (i < 0) i.natAbs 1

/-- The magnitude `m · 2 ^ e` as a ratio. -/
def magnitude (m : Nat) (e : Int) : Nat × Nat :=
  if 0 ≤ e then (m <<< e.toNat, 1) else (m, 1 <<< (-e).toNat)

def toInt? : Double → Option Int
  | .finite negative m e _ =>
    let (n, d) := magnitude m e
    if n % d = 0 then
      let i : Int := (n / d : Nat)
      some (if negative then -i else i)
    else
      none
  | _ => none

/-- Greater than zero; no NaN is. -/
def isPositive : Double → Bool
  | .finite negative m _ _ => !negative && m != 0
  | .infinite negative => !negative
  | .nan => false

def isFinite : Double → Bool
  | .finite .. => true
  | _ => false

/-- Equal as numbers: the two zeros are equal. -/
def sameNumber : Double → Double → Bool
  | .finite s m e _, .finite s' m' e' _ => m == m' && (m == 0 || (s == s' && e == e'))
  | a, b => a == b

def negated : Double → Double
  | .nan => .nan
  | .infinite negative => .infinite !negative
  | .finite negative m e h => .finite (!negative) m e h

def ratio? : Double → Option (Nat × Nat)
  | .finite _ m e _ => some (magnitude m e)
  | _ => none

/-- A double that is not negative times a whole number, and another one added to it.  Both steps go
to the nearest double. -/
def addProduct (sum d : Double) (factor : Nat) : Double :=
  match sum.ratio?, d.ratio?, (ofInt factor).ratio? with
  | some (n, k), some (a, b), some (c, l) =>
    match (ofRatio false (a * c) (b * l)).ratio? with
    | some (p, q) => ofRatio false (n * q + p * k) (k * q)
    | none => .infinite false
  | _, _, _ => .infinite false

@[simp] theorem isFinite_zero (s : Bool) : (zero s).isFinite = true := rfl

@[simp] theorem toInt?_zero (s : Bool) : (zero s).toInt? = some 0 := by
  cases s <;> decide +kernel

end Double

end ServiceMigration
