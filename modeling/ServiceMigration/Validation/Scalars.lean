import ServiceMigration.Text.Blank
import ServiceMigration.Validation.Checked
import ServiceMigration.Value.Display
/-!
# Reading texts, numbers and truth values

A document from a hand or a language model spells numbers and truth values in many ways.  These
readers say which are accepted: texts only as texts, numbers also as texts, truth values as 0, 1 or
a word.
-/

namespace ServiceMigration.Validation

/-- A text, unchanged. -/
def readString : Value → Checked String
  | .scalar (.str s) => .ok s
  | _ => .fail .notString

/-- Decimal digits and nothing else, at least one. -/
def areDigits (cs : List Char) : Bool := !cs.isEmpty && cs.all Char.isDigit

/-- Underscores may stand between digits, one at a time; they are dropped. -/
def dropUnderscores? (cs : List Char) : Option (List Char) :=
  if !cs.contains '_' || cs.head? == some '_' || cs.getLast? == some '_' ||
      (cs.zip cs.tail).any (fun (a, b) => a == '_' && b == '_') then
    none
  else
    some (cs.filter (· != '_'))

def splitSign : List Char → Bool × List Char
  | '-' :: rest => (true, rest)
  | '+' :: rest => (false, rest)
  | cs => (false, cs)

/-- Drop zeros before the first other digit, with underscores among them; the last character
stays. -/
def dropLeadingZeros (cs : List Char) : List Char :=
  match cs with
  | '0' :: rest =>
    match rest.dropWhile (fun c => c == '0' || c == '_') with
    | [] => cs.drop (cs.length - 1)
    | '.' :: tail => cs.drop (cs.length - tail.length - 2)
    | tail => tail
  | _ => cs

/-- A fraction of zeros only is dropped; any other fraction spoils the number. -/
def dropZeroFraction? (cs : List Char) : Option (List Char) :=
  match cs.dropWhile (· != '.') with
  | [] => some cs
  | _ :: fraction =>
    if !fraction.isEmpty && fraction.all (· == '0') then some (cs.takeWhile (· != '.')) else none

def parseInt (s : String) : Checked Int :=
  let (negative, body) := splitSign (Text.trimBoth Text.isWhiteSpace s.toList)
  if !(body.head?.map Char.isDigit).getD false then .fail .intSyntax
  else
    match dropZeroFraction? (dropLeadingZeros body) with
    | none => .fail .intSyntax
    | some whole =>
      let ds := (dropUnderscores? whole).getD whole
      if !areDigits ds then .fail .intSyntax
      else if 4300 < ds.length then .fail .intSize
      else
        let n : Int := Decimal.ofDigits ds
        .ok (if negative then -n else n)

/-- A double with no fraction is a whole number if 64 bits hold it. -/
def intOfDouble (d : Double) : Checked Int :=
  if !d.isFinite then .fail .intFinite
  else
    match d.toInt? with
    | none => .fail .intFraction
    | some i =>
      if Int64.minValue.toInt ≤ i && i ≤ Int64.maxValue.toInt then .ok i else .fail .intSize

def readInt : Value → Checked Int
  | .scalar (.int i) => .ok i
  | .scalar (.bool b) => .ok (if b then 1 else 0)
  | .scalar (.float d) => intOfDouble d
  | .scalar (.str s) => parseInt s
  | _ => .fail .notInt

/-- The unsigned numeral at the beginning of a text: digits, a point, an exponent. -/
def parseNumeral? (cs : List Char) : Option Decimal :=
  let whole := cs.takeWhile Char.isDigit
  let afterWhole := cs.dropWhile Char.isDigit
  let (fraction, rest) := match afterWhole with
    | '.' :: r => (r.takeWhile Char.isDigit, r.dropWhile Char.isDigit)
    | r => ([], r)
  if whole.isEmpty && fraction.isEmpty then none
  else
    let coefficient := Decimal.ofDigits (whole ++ fraction)
    match rest with
    | [] => some ⟨coefficient, -(fraction.length : Int)⟩
    | mark :: tail =>
      let (negative, ds) := splitSign tail
      if (mark == 'e' || mark == 'E') && areDigits ds then
        let n : Int := Decimal.ofDigits ds
        some ⟨coefficient, (if negative then -n else n) - fraction.length⟩
      else
        none

/-- A double spelled as a text without blanks. -/
def parseDouble? (cs : List Char) : Option Double :=
  let (negative, body) := splitSign cs
  let word := String.ofList (body.map Char.toLower)
  if word == "nan" then some .nan
  else if word == "inf" || word == "infinity" then some (.infinite negative)
  else (parseNumeral? body).map (·.toDouble negative)

def parseFloat (s : String) : Checked Double :=
  match parseDouble? (Text.trimBoth Text.isWhiteSpace s.toList) with
  | some d => .ok d
  | none =>
    match (dropUnderscores? s.toList).bind parseDouble? with
    | some d => .ok d
    | none => .fail .floatSyntax

def readFloat : Value → Checked Double
  | .scalar (.float d) => .ok d
  | .scalar (.int i) =>
    match Double.ofInt i with
    | .infinite _ => .fail .notFloat
    | d => .ok d
  | .scalar (.bool b) => .ok (.ofInt (if b then 1 else 0))
  | .scalar (.str s) => parseFloat s
  | _ => .fail .notFloat

/-- The words for a truth value, in any case. -/
def boolOfWord? (s : String) : Option Bool :=
  let word := String.ofList (s.toList.map Char.toLower)
  if ["0", "off", "f", "false", "n", "no"].contains word then some false
  else if ["1", "on", "t", "true", "y", "yes"].contains word then some true
  else none

def readBool : Value → Checked Bool
  | .scalar (.bool b) => .ok b
  | .scalar (.int i) =>
    if i = 0 then .ok false else if i = 1 then .ok true else .fail .boolSyntax
  | .scalar (.float d) =>
    match d.toInt? with
    | some 0 => .ok false
    | some 1 => .ok true
    | _ => .fail .notBool
  | .scalar (.str s) =>
    match boolOfWord? s with
    | some b => .ok b
    | none => .fail .boolSyntax
  | _ => .fail .notBool

def readStringEntries : List (Scalar × Value) → Checked (List (String × String))
  | [] => .ok []
  | (k, v) :: rest =>
    let entry := (Prod.mk <$> (readString (.scalar k)).within (.key k.text)) <*>
      (readString v).within (.key k.text)
    (List.cons <$> entry) <*> readStringEntries rest

def readStringMap : Value → Checked (List (String × String))
  | .dict entries => readStringEntries entries
  | _ => .fail .notDict

/-- Entries of a mapping from texts to documents of any kind. -/
def readDocumentEntries : List (Scalar × Value) → Checked (List (String × Value))
  | [] => .ok []
  | (k, v) :: rest =>
    let entry := (fun name => (name, v)) <$> (readString (.scalar k)).within (.key k.text)
    (List.cons <$> entry) <*> readDocumentEntries rest

/-- A mapping from texts to documents of any kind. -/
def readDocumentMap : Value → Checked (List (String × Value))
  | .dict entries => readDocumentEntries entries
  | _ => .fail .notDict

end ServiceMigration.Validation
