/-!
# Where and why a text is not JSON

An error names what was expected or what is wrong, and a place in the text: line and column, both
from one, and the number of characters before it.
-/

namespace ServiceMigration.Json

structure Position where
  line : Nat
  column : Nat
  offset : Nat
  deriving DecidableEq, Repr

/-- The place that is reached after some characters. -/
def Position.after (before : List Char) : Position where
  line := before.count '\n' + 1
  column := (before.reverse.takeWhile (· != '\n')).length + 1
  offset := before.length

inductive Problem where
  | value
  | name
  | colon
  | comma
  | unterminated
  | control
  | escape
  | unicodeEscape
  | extra
  | byteOrderMark
  deriving DecidableEq, Repr

def Problem.text : Problem → String
  | .value => "Expecting value"
  | .name => "Expecting property name enclosed in double quotes"
  | .colon => "Expecting ':' delimiter"
  | .comma => "Expecting ',' delimiter"
  | .unterminated => "Unterminated string starting at"
  | .control => "Invalid control character at"
  | .escape => "Invalid \\escape"
  | .unicodeEscape => "Invalid \\uXXXX escape"
  | .extra => "Extra data"
  | .byteOrderMark => "Unexpected UTF-8 BOM (decode using utf-8-sig)"

/-- Why a text could not be read: it is no JSON, or a whole number in it is too long. -/
inductive Error where
  | malformed (problem : Problem) (position : Position)
  | tooManyDigits (count : Nat)
  deriving DecidableEq, Repr

/-- Most digits that a whole number may have. -/
def maxDigits : Nat := 4300

def Error.text : Error → String
  | .malformed problem p =>
    s!"{problem.text}: line {p.line} column {p.column} (char {p.offset})"
  | .tooManyDigits count =>
    s!"Exceeds the limit ({maxDigits} digits) for integer string conversion: value has {count} " ++
      "digits; use sys.set_int_max_str_digits() to increase the limit"

end ServiceMigration.Json
