import ServiceMigration.Text.Cut
import ServiceMigration.Validation.Scalars
import ServiceMigration.Yaml.Cursor
/-!
# What scalars mean

A tag says what a node is.  A plain scalar without a tag gets one by its look: words for null and
for truth values, whole numbers to four bases and in sixties, numbers with a point, dates and times,
and a text otherwise.
-/

namespace ServiceMigration.Yaml

inductive Tag where
  | null
  | bool
  | int
  | float
  | str
  | moment
  | merge
  | value
  | seq
  | map
  | other (name : String)
  deriving DecidableEq, Repr

namespace Tag

/-- What the names of all common tags begin with. -/
def common : String := "tag:yaml.org,2002:"

def table : List (String × Tag) := [
  ("null", .null), ("bool", .bool), ("int", .int), ("float", .float), ("str", .str),
  ("timestamp", .moment), ("merge", .merge), ("value", .value), ("seq", .seq), ("map", .map)]

def ofName (name : String) : Tag :=
  match Text.dropExact? common.toList name.toList with
  | some rest => (table.lookup (String.ofList rest)).getD (.other name)
  | none => .other name

def name : Tag → String
  | .other name => name
  | t => common ++ ((table.find? fun e => e.2 == t).map Prod.fst).getD ""

end Tag

/-! ### The look of numbers -/

/-- Digits and underscores after a first digit. -/
def isNumberBody (cs : List Char) : Bool :=
  (cs.head?.map Char.isDigit).getD false && cs.all fun c => c.isDigit || c == '_'

/-- Digits of a base, or underscores, at least one. -/
def areDigitsOf (isDigitOf : Char → Bool) (cs : List Char) : Bool :=
  !cs.isEmpty && cs.all fun c => isDigitOf c || c == '_'

def isSixtieth : List Char → Bool
  | [a] => a.isDigit
  | [a, b] => '0' ≤ a && a ≤ '5' && b.isDigit
  | _ => false

/-- Numbers below sixty after a first number, with colons between all of them. -/
def areSixtieths : List (List Char) → Bool
  | first :: second :: rest => isNumberBody first && (second :: rest).all isSixtieth
  | _ => false

def looksWhole (cs : List Char) : Bool :=
  match (Validation.splitSign cs).2 with
  | ['0'] => true
  | '0' :: 'b' :: ds => areDigitsOf (fun c => c == '0' || c == '1') ds
  | '0' :: 'x' :: ds =>
    areDigitsOf (fun c => c.isDigit || ('a' ≤ c && c ≤ 'f') || ('A' ≤ c && c ≤ 'F')) ds
  | '0' :: ds => areDigitsOf (fun c => '0' ≤ c && c ≤ '7') ds
  | body => isNumberBody body || areSixtieths (Text.splitAt ':' body)

def looksExponent : List Char → Bool
  | [] => true
  | mark :: sign :: ds =>
    (mark == 'e' || mark == 'E') && (sign == '-' || sign == '+') && Validation.areDigits ds
  | _ => false

def looksFraction (cs : List Char) : Bool :=
  looksExponent (cs.dropWhile fun c => c.isDigit || c == '_')

def looksReal (cs : List Char) : Bool :=
  let (_, body) := Validation.splitSign cs
  let hasSign := body.length < cs.length
  let word := String.ofList body
  if [".inf", ".Inf", ".INF"].contains word then true
  else if [".nan", ".NaN", ".NAN"].contains word then !hasSign
  else
    match body with
    | '.' :: d :: rest => !hasSign && d.isDigit && looksFraction rest
    | _ =>
      let whole := Text.beforeFirst '.' body
      match Text.afterFirst? '.' body with
      | none => false
      | some fraction =>
        if isNumberBody whole then looksFraction fraction
        else areSixtieths (Text.splitAt ':' whole) && fraction.all fun c => c.isDigit || c == '_'

/-! ### The look of dates and times -/

/-- At least `least` and at most `most` digits, their number, and what follows. -/
def digitsPart (least most : Nat) (cs : List Char) : Option (Nat × List Char) :=
  let ds := (cs.take most).takeWhile Char.isDigit
  if least ≤ ds.length then some (Decimal.ofDigits ds, cs.drop ds.length) else none

def charPart (c : Char) : List Char → Option (List Char)
  | d :: rest => if d == c then some rest else none
  | [] => none

/-- A year, a month and a day with at least so many digits each. -/
def datePart (least : Nat) (cs : List Char) : Option (Moment × List Char) := do
  let (year, cs) ← digitsPart 4 4 cs
  let cs ← charPart '-' cs
  let (month, cs) ← digitsPart least 2 cs
  let cs ← charPart '-' cs
  let (day, cs) ← digitsPart least 2 cs
  pure (⟨year, month, day, none⟩, cs)

/-- What stands between date and time. -/
def betweenPart : List Char → Option (List Char)
  | 'T' :: rest | 't' :: rest => some rest
  | c :: rest => if isGap c then some (rest.dropWhile isGap) else none
  | [] => none

/-- Millionths of a second after a point; further digits do not count. -/
def microsPart : List Char → Nat × List Char
  | '.' :: rest =>
    let ds := (rest.takeWhile Char.isDigit).take 6
    (Decimal.ofDigits (ds ++ List.replicate (6 - ds.length) '0'), rest.dropWhile Char.isDigit)
  | cs => (0, cs)

/-- The distance from universal time in minutes, if there is one. -/
def offsetPart (cs : List Char) : Option (Option Int × List Char) :=
  match cs.dropWhile isGap with
  | [] => if cs.isEmpty then some (none, []) else none
  | 'Z' :: rest => some (some 0, rest)
  | sign :: rest =>
    if sign == '-' || sign == '+' then do
      let (hours, rest) ← digitsPart 1 2 rest
      let (minutes, rest) ← match rest with
        | ':' :: rest => digitsPart 2 2 rest
        | rest => some (0, rest)
      let n : Int := (60 * hours + minutes : Nat)
      pure (some (if sign == '-' then -n else n), rest)
    else none

def clockPart (cs : List Char) : Option (Clock × List Char) := do
  let (hour, cs) ← digitsPart 1 2 cs
  let cs ← charPart ':' cs
  let (minute, cs) ← digitsPart 2 2 cs
  let cs ← charPart ':' cs
  let (second, cs) ← digitsPart 2 2 cs
  let (micros, cs) := microsPart cs
  let (offset, cs) ← offsetPart cs
  pure (⟨hour, minute, second, micros, offset⟩, cs)

def fullMoment? (cs : List Char) : Option Moment := do
  let (date, cs) ← datePart 1 cs
  let cs ← betweenPart cs
  let (clock, cs) ← clockPart cs
  if cs.isEmpty then pure { date with clock := some clock } else none

def moment? (cs : List Char) : Option Moment :=
  match datePart 2 cs with
  | some (date, []) => some date
  | _ => fullMoment? cs

/-! ### Plain scalars -/

def nullWords : List String := ["", "~", "null", "Null", "NULL"]

def boolWords : List (String × Bool) := [
  ("yes", true), ("Yes", true), ("YES", true), ("no", false), ("No", false), ("NO", false),
  ("true", true), ("True", true), ("TRUE", true), ("false", false), ("False", false),
  ("FALSE", false), ("on", true), ("On", true), ("ON", true), ("off", false), ("Off", false),
  ("OFF", false)]

def Tag.ofPlain (text : String) : Tag :=
  let cs := text.toList
  if nullWords.contains text then .null
  else if (boolWords.lookup text).isSome then .bool
  else if looksReal cs then .float
  else if looksWhole cs then .int
  else if (moment? cs).isSome then .moment
  else if text == "<<" then .merge
  else if text == "=" then .value
  else .str

/-! ### Values -/

/-- The number that digits of a base spell, if there are any and all of them are digits. -/
def numberToBase? (base : Nat) (ds : List Char) : Option Nat :=
  if ds.isEmpty then none
  else
    ds.foldlM (fun n c => do
      let d := if c.isDigit then c.toNat - '0'.toNat
        else if c.isAlpha then c.toLower.toNat - 'a'.toNat + 10 else base
      if d < base then pure (base * n + d) else none) 0

/-- The number that digits spell, unless they are too many. -/
def decimalValue (ds : List Char) : Except Fault Nat :=
  match numberToBase? 10 ds with
  | none => .error (.noNumber (some 10) (String.ofList ds))
  | some n => if 4300 < ds.length then .error (.tooManyDigits ds.length) else .ok n

def baseValue (base : Nat) (ds : List Char) : Except Fault Nat :=
  match numberToBase? base ds with
  | none => .error (.noNumber (some base) (String.ofList ds))
  | some n => .ok n

def wholeMagnitude (body : List Char) : Except Fault Nat :=
  match body with
  | ['0'] => .ok 0
  | '0' :: 'b' :: ds => baseValue 2 ds
  | '0' :: 'x' :: ds => baseValue 16 ds
  | '0' :: _ => baseValue 8 body
  | _ =>
    (Text.splitAt ':' body).foldlM (fun n part => (decimalValue part).map (60 * n + ·)) 0

def wholeValue (cs : List Char) : Except Fault Int :=
  let (negative, body) := Validation.splitSign (cs.filter (· != '_'))
  (wholeMagnitude body).map fun n => if negative then -(n : Int) else n

/-- The sum of numbers, each sixty times as much worth as the one before it. -/
def sixtiesSum : Double → Nat → List Double → Double
  | sum, _, [] => sum
  | sum, worth, d :: rest => sixtiesSum (sum.addProduct d worth) (60 * worth) rest

def realMagnitude (body : List Char) : Except Fault Double :=
  if body == ".inf".toList then .ok (.infinite false)
  else if body == ".nan".toList then .ok .nan
  else
    let part (cs : List Char) : Except Fault Double :=
      match Validation.parseDouble? cs with
      | some d => .ok d
      | none => .error (.noNumber none (String.ofList cs))
    match Text.splitAt ':' body with
    | [single] => part single
    | parts => (parts.mapM part).map fun ds => sixtiesSum (.zero false) 1 ds.reverse

def realValue (cs : List Char) : Except Fault Double :=
  let (negative, body) :=
    Validation.splitSign ((cs.filter (· != '_')).map Char.toLower)
  (realMagnitude body).map fun d => if negative then d.negated else d

def momentValue (mark : Mark) (text : String) : Except Fault Moment :=
  match moment? text.toList with
  | none => .error (.at ("no date: " ++ Text.quoted text) mark)
  | some m =>
    match m.problem? with
    | none => .ok m
    | some explanation => .error (.noSuchTime explanation)

/-- The value of a word for a truth value, in any case. -/
def boolValue (mark : Mark) (text : String) : Except Fault Bool :=
  match boolWords.lookup (String.ofList (text.toList.map Char.toLower)) with
  | some b => .ok b
  | none => .error (.at ("no truth value: " ++ Text.quoted text) mark)

def unknownTag (tag : Tag) (mark : Mark) : Fault :=
  .at ("could not determine a constructor for the tag " ++ Text.quoted tag.name) mark

def scalarValue (tag : Tag) (text : String) (mark : Mark) : Except Fault Scalar :=
  match tag with
  | .null => .ok .null
  | .bool => (boolValue mark text).map .bool
  | .int => (wholeValue text.toList).map .int
  | .float => (realValue text.toList).map .float
  | .str => .ok (.str text)
  | .moment => (momentValue mark text).map .moment
  | .seq => .error (.at "expected a sequence node, but found scalar" mark)
  | .map => .error (.at "expected a mapping node, but found scalar" mark)
  | .merge | .value | .other _ => .error (unknownTag tag mark)

end ServiceMigration.Yaml
