import ServiceMigration.Json.Error
import ServiceMigration.Number.Decimal
import ServiceMigration.Text.Hex
import ServiceMigration.Text.PrintTable
import ServiceMigration.Text.Word
import ServiceMigration.Value.Basic
/-!
# Values as text

Metadata holds texts only, so a value of another kind is written out.  A text stands for itself;
inside a list or a mapping it is quoted.  A whole number with too many digits cannot be written out.
-/

namespace ServiceMigration

namespace Text

def isPrintable (c : Char) : Bool :=
  if c.toNat < 128 then 32 ≤ c.toNat && c.toNat < 127 else !inRanges unprintableRanges c.toNat

def escapeChar (quote c : Char) : List Char :=
  if c == quote || c == '\\' then ['\\', c]
  else if c == '\n' then ['\\', 'n']
  else if c == '\r' then ['\\', 'r']
  else if c == '\t' then ['\\', 't']
  else if isPrintable c then [c]
  else if c.toNat < 0x100 then '\\' :: 'x' :: hex 2 c.toNat
  else if c.toNat < 0x10000 then '\\' :: 'u' :: hex 4 c.toNat
  else '\\' :: 'U' :: hex 8 c.toNat

/-- A text in quotes: single ones, unless it has single quotes and no double ones. -/
def quoted (s : String) : String :=
  let cs := s.toList
  let quote := if cs.contains '\'' && !cs.contains '"' then '"' else '\''
  String.ofList (quote :: (cs.flatMap (escapeChar quote) ++ [quote]))

end Text

def Scalar.nestedText : Scalar → String
  | .null => "None"
  | .bool b => if b then "True" else "False"
  | .int i => toString i
  | .float d => d.text
  | .str s => Text.quoted s
  | .moment m => m.constructorText

def Scalar.text : Scalar → String
  | .str s => s
  | .moment m => m.text
  | s => s.nestedText

/-- A whole number with more digits than are ever written out. -/
def Scalar.isLongNumber : Scalar → Bool
  | .int i => Json.maxDigits < (Decimal.digits i.natAbs).length
  | _ => false

namespace Value

mutual

def nestedText : Value → String
  | .scalar s => s.nestedText
  | .list items => "[" ++ itemsText items ++ "]"
  | .dict entries => "\x7b" ++ entriesText entries ++ "\x7d"

def itemsText : List Value → String
  | [] => ""
  | [v] => nestedText v
  | v :: rest => nestedText v ++ ", " ++ itemsText rest

def entriesText : List (Scalar × Value) → String
  | [] => ""
  | [(k, v)] => k.nestedText ++ ": " ++ nestedText v
  | (k, v) :: rest => k.nestedText ++ ": " ++ nestedText v ++ ", " ++ entriesText rest

end

def text : Value → String
  | .scalar s => s.text
  | v => v.nestedText

mutual

/-- A whole number in a value has too many digits. -/
def hasLongNumber : Value → Bool
  | .scalar s => s.isLongNumber
  | .list items => itemsHaveLongNumber items
  | .dict entries => entriesHaveLongNumber entries

def itemsHaveLongNumber : List Value → Bool
  | [] => false
  | v :: rest => hasLongNumber v || itemsHaveLongNumber rest

/-- A whole number has too many digits, in a key or in a value. -/
def entriesHaveLongNumber : List (Scalar × Value) → Bool
  | [] => false
  | (k, v) :: rest => k.isLongNumber || hasLongNumber v || entriesHaveLongNumber rest

end

end Value

end ServiceMigration
