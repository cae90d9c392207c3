import ServiceMigration.Number.Double
/-!
# Decimal numerals of doubles

Reading a decimal numeral gives the nearest double; writing a double gives the fewest digits that
read back as it, of several the nearest, and a tie goes to the even digit.  Both are integer
arithmetic.  `Numeral` holds the decisions of the format in which this program writes numbers.
-/

namespace ServiceMigration

/-- `coefficient · 10 ^ exponent`. -/
structure Decimal where
  coefficient : Nat
  exponent : Int
  deriving DecidableEq, Repr

namespace Decimal

def digits (n : Nat) : List Char := Nat.toDigits 10 n

/-- The whole number that decimal digits spell; other characters count as what their code says. -/
def ofDigits (cs : List Char) : Nat :=
  cs.foldl (fun n c => 10 * n + (c.toNat - '0'.toNat)) 0

/-- The double nearest to a decimal.  Far outside the range the answer is known without the
powers. -/
def toDouble (negative : Bool) (d : Decimal) : Double :=
  if d.coefficient = 0 then .zero negative
  else
    let size := (digits d.coefficient).length + d.exponent
    if size > 400 then .infinite negative
    else if size < -400 then .zero negative
    else if 0 ≤ d.exponent then
      .ofRatio negative (d.coefficient * Nat.pow 10 d.exponent.toNat) 1
    else
      .ofRatio negative d.coefficient (Nat.pow 10 (-d.exponent).toNat)

/-- The number `p` with `10 ^ (p - 1) ≤ n / d < 10 ^ p`, for a ratio within the range of doubles. -/
def magnitudeOf (n d : Nat) : Int :=
  if d ≤ n then (digits (n / d)).length
  else
    match (List.range 400).find? fun j => d ≤ n * Nat.pow 10 (j + 1) with
    | some j => -(j : Int)
    | none => 0

/-- Of the two neighbours of `m · 2 ^ e` on the grid `10 ^ x`, the nearest that reads back as it,
and the even one if both are as near. -/
def onGrid? (m : Nat) (e : Int) (x : Int) : Option Decimal :=
  let (n, d) := Double.magnitude m e
  let (a, b) := if 0 ≤ x then (n, d * Nat.pow 10 x.toNat) else (n * Nat.pow 10 (-x).toNat, d)
  let below : Decimal := ⟨a / b, x⟩
  let above : Decimal := ⟨a / b + 1, x⟩
  let readsBack (c : Decimal) : Bool := c.toDouble false == Double.pack false m e
  match readsBack below, readsBack above with
  | true, true =>
    let isNearer := 2 * (a % b) < b || (2 * (a % b) = b && a / b % 2 = 0)
    some (if isNearer then below else above)
  | true, false => some below
  | false, true => some above
  | false, false => none

/-- `m · 2 ^ e` with all its digits. -/
def exact (m : Nat) (e : Int) : Decimal :=
  if 0 ≤ e then ⟨m <<< e.toNat, 0⟩ else ⟨m * Nat.pow 5 (-e).toNat, e⟩

/-- The shortest decimal that reads back as `m · 2 ^ e`. -/
def shortest (m : Nat) (e : Int) : Decimal :=
  let (n, d) := Double.magnitude m e
  let p := magnitudeOf n d
  ((List.range 17).findSome? fun k => onGrid? m e (p - (k + 1 : Nat))).getD (exact m e)

/-- Drop zeros at the end of the coefficient. -/
def dropZeros (cs : List Char) (x : Int) : List Char × Int :=
  let zeros := (cs.reverse.takeWhile (· == '0')).length
  (cs.take (cs.length - zeros), x + zeros)

end Decimal

structure Numeral where
  /-- Least decimal exponent that is written without an exponent mark. -/
  leastPositional : Int
  /-- First decimal exponent above it that is written with one. -/
  firstScientific : Int
  /-- Least number of digits of a written exponent. -/
  exponentWidth : Nat
  nan : String
  infinity : String

namespace Numeral

/-- Digits with a point after `p` of them; `p` may lie outside. -/
def positional (cs : List Char) (p : Int) : List Char :=
  if p ≤ 0 then '0' :: '.' :: (List.replicate (-p).toNat '0' ++ cs)
  else if p < cs.length then cs.take p.toNat ++ '.' :: cs.drop p.toNat
  else cs ++ List.replicate (p.toNat - cs.length) '0' ++ ['.', '0']

def exponentText (width : Nat) (x : Int) : List Char :=
  let ds := Decimal.digits x.natAbs
  'e' :: (if x < 0 then '-' else '+') :: (List.replicate (width - ds.length) '0' ++ ds)

def scientific (width : Nat) (cs : List Char) (x : Int) : List Char :=
  match cs with
  | [] => ['0']
  | [c] => c :: exponentText width x
  | c :: rest => c :: '.' :: (rest ++ exponentText width x)

def ofDecimal (f : Numeral) (d : Decimal) : List Char :=
  if d.coefficient = 0 then ['0', '.', '0']
  else
    let (cs, x) := Decimal.dropZeros (Decimal.digits d.coefficient) d.exponent
    let p := x + cs.length
    if f.leastPositional ≤ p - 1 && p - 1 < f.firstScientific then positional cs p
    else scientific f.exponentWidth cs (p - 1)

def ofDouble (f : Numeral) : Double → List Char
  | .nan => f.nan.toList
  | .infinite negative => (if negative then ['-'] else []) ++ f.infinity.toList
  | .finite negative m e _ =>
    (if negative then ['-'] else []) ++ f.ofDecimal (if m = 0 then ⟨0, 0⟩ else .shortest m e)

/-- Numbers below `10 ^ 16` and down to `10 ^ -4` are written positionally, with a point always. -/
def plain : Numeral where
  leastPositional := -4
  firstScientific := 16
  exponentWidth := 2
  nan := "nan"
  infinity := "inf"

end Numeral

def Double.text (d : Double) : String := String.ofList (Numeral.plain.ofDouble d)

end ServiceMigration
