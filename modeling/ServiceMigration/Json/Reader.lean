import ServiceMigration.Json.Error
import ServiceMigration.Value.Basic
/-!
# Reading JSON

The reader takes a list of characters and gives a value with the characters that are left, or a
fault with the characters at which it arose.  A fault becomes an error with a position only at the
end, when the whole text is at hand.  The fuel of the three functions that follow the nesting is
computed from the length of the text in `parse`: every second call takes a character.
-/

namespace ServiceMigration.Json

/-- What stopped the reader, and what was left of the text there. -/
inductive Fault where
  | malformed (problem : Problem) (rest : List Char)
  | tooManyDigits (count : Nat)
  deriving DecidableEq, Repr

abbrev Result (α : Type) := Except Fault (α × List Char)

/-- The four characters that may stand between tokens. -/
def isSpace (c : Char) : Bool := c == ' ' || c == '\t' || c == '\n' || c == '\r'

def skip (cs : List Char) : List Char := cs.dropWhile isSpace

def hexDigit? (c : Char) : Option Nat :=
  if '0' ≤ c && c ≤ '9' then some (c.toNat - '0'.toNat)
  else if 'a' ≤ c && c ≤ 'f' then some (c.toNat - 'a'.toNat + 10)
  else if 'A' ≤ c && c ≤ 'F' then some (c.toNat - 'A'.toNat + 10)
  else none

def hex4? (a b c d : Char) : Option Nat := do
  let a ← hexDigit? a
  let b ← hexDigit? b
  let c ← hexDigit? c
  let d ← hexDigit? d
  pure (4096 * a + 256 * b + 16 * c + d)

/-- First half of a pair of units that together name one character. -/
def isHighHalf (n : Nat) : Bool := 0xD800 ≤ n && n ≤ 0xDBFF

/-- Second half of such a pair. -/
def isLowHalf (n : Nat) : Bool := 0xDC00 ≤ n && n ≤ 0xDFFF

/-- What a string is made of: characters, and halves of characters that were written as numbers. -/
inductive Piece where
  | char (c : Char)
  | half (n : Nat)
  deriving DecidableEq, Repr

def Piece.ofNumber (n : Nat) : Piece :=
  if isHighHalf n || isLowHalf n then .half n else .char (Char.ofNat n)

def pairChar (high low : Nat) : Char :=
  Char.ofNat (0x10000 + (high - 0xD800) * 0x400 + (low - 0xDC00))

/-- Put halves together; one that stands alone has no character and becomes the replacement. -/
def joinPieces : List Piece → List Char
  | [] => []
  | .char c :: rest => c :: joinPieces rest
  | .half n :: .half k :: rest =>
    if isHighHalf n && isLowHalf k then pairChar n k :: joinPieces rest
    else '\uFFFD' :: joinPieces (.half k :: rest)
  | .half _ :: rest => '\uFFFD' :: joinPieces rest

/-- The character that a backslash and a letter stand for. -/
def plainEscape? : Char → Option Char
  | '"' => some '"'
  | '\\' => some '\\'
  | '/' => some '/'
  | 'b' => some '\x08'
  | 'f' => some '\x0c'
  | 'n' => some '\n'
  | 'r' => some '\r'
  | 't' => some '\t'
  | _ => none

def push (p : Piece) : Result (List Piece) → Result (List Piece)
  | .ok (ps, rest) => .ok (p :: ps, rest)
  | .error f => .error f

/-- The pieces of a string up to its closing quote; `start` is the text from the opening one.  The
four digits of an escape are recognised only where the text goes on after them. -/
def readPieces (start : List Char) : List Char → Result (List Piece)
  | [] => .error (.malformed .unterminated start)
  | '"' :: rest => .ok ([], rest)
  | ['\\'] => .error (.malformed .unterminated start)
  | '\\' :: 'u' :: a :: b :: c :: d :: rest =>
    match hex4? a b c d, rest with
    | some n, _ :: _ => push (.ofNumber n) (readPieces start rest)
    | _, _ => .error (.malformed .unicodeEscape ('u' :: a :: b :: c :: d :: rest))
  | '\\' :: 'u' :: rest => .error (.malformed .unicodeEscape ('u' :: rest))
  | '\\' :: c :: rest =>
    match plainEscape? c with
    | some x => push (.char x) (readPieces start rest)
    | none => .error (.malformed .escape ('\\' :: c :: rest))
  | c :: rest =>
    if c.toNat < 0x20 then .error (.malformed .control (c :: rest))
    else push (.char c) (readPieces start rest)

/-- The string up to its closing quote. -/
def readString (start : List Char) (cs : List Char) : Result String :=
  match readPieces start cs with
  | .ok (ps, rest) => .ok (String.ofList (joinPieces ps), rest)
  | .error f => .error f

/-- A fraction: a point and at least one digit.  Its digits, and what follows. -/
def fractionPart : List Char → List Char × List Char
  | '.' :: rest =>
    let ds := rest.takeWhile Char.isDigit
    if ds.isEmpty then ([], '.' :: rest) else (ds, rest.dropWhile Char.isDigit)
  | cs => ([], cs)

/-- An exponent: a mark, perhaps a sign, and at least one digit.  Its value, and what follows. -/
def exponentPart (cs : List Char) : Option (Int × List Char) :=
  match cs with
  | [] => none
  | mark :: rest =>
    if mark == 'e' || mark == 'E' then
      let (negative, body) := match rest with
        | '-' :: r => (true, r)
        | '+' :: r => (false, r)
        | r => (false, r)
      let ds := body.takeWhile Char.isDigit
      if ds.isEmpty then none
      else
        let n : Int := Decimal.ofDigits ds
        some (if negative then -n else n, body.dropWhile Char.isDigit)
    else none

/-- Digits of the whole part: a zero alone, or digits that do not begin with one. -/
def wholePart : List Char → List Char × List Char
  | '0' :: rest => (['0'], rest)
  | cs => (cs.takeWhile Char.isDigit, cs.dropWhile Char.isDigit)

/-- A number.  It is a double if it has a fraction or an exponent, and whole otherwise; a whole one
may have up to `limit` digits. -/
def readNumber (limit : Nat) (cs : List Char) : Result Scalar :=
  let (negative, body) := match cs with
    | '-' :: r => (true, r)
    | r => (false, r)
  let (whole, rest) := wholePart body
  if whole.isEmpty then .error (.malformed .value cs)
  else
    let (fraction, rest) := fractionPart rest
    match exponentPart rest with
    | some (x, rest) =>
      .ok (.float (Decimal.toDouble negative
        ⟨Decimal.ofDigits (whole ++ fraction), x - fraction.length⟩), rest)
    | none =>
      if fraction.isEmpty then
        if limit < whole.length then .error (.tooManyDigits whole.length)
        else
          let n : Int := Decimal.ofDigits whole
          .ok (.int (if negative then -n else n), rest)
      else
        .ok (.float (Decimal.toDouble negative
          ⟨Decimal.ofDigits (whole ++ fraction), -(fraction.length : Int)⟩), rest)

def readScalar (limit : Nat) (cs : List Char) : Result Scalar :=
  match cs with
  | 'n' :: 'u' :: 'l' :: 'l' :: rest => .ok (.null, rest)
  | 't' :: 'r' :: 'u' :: 'e' :: rest => .ok (.bool true, rest)
  | 'f' :: 'a' :: 'l' :: 's' :: 'e' :: rest => .ok (.bool false, rest)
  | 'N' :: 'a' :: 'N' :: rest => .ok (.float .nan, rest)
  | 'I' :: 'n' :: 'f' :: 'i' :: 'n' :: 'i' :: 't' :: 'y' :: rest =>
    .ok (.float (.infinite false), rest)
  | '-' :: 'I' :: 'n' :: 'f' :: 'i' :: 'n' :: 'i' :: 't' :: 'y' :: rest =>
    .ok (.float (.infinite true), rest)
  | _ => readNumber limit cs

mutual

/-- Any value. -/
def readValue (limit fuel : Nat) (cs : List Char) : Result Value :=
  match fuel with
  | 0 => .error (.malformed .value cs)
  | fuel + 1 =>
    match cs with
    | '"' :: rest =>
      match readString cs rest with
      | .ok (s, rest) => .ok (.str s, rest)
      | .error f => .error f
    | '[' :: rest =>
      match skip rest with
      | ']' :: rest => .ok (.list [], rest)
      | rest =>
        match readItems limit fuel rest with
        | .ok (items, rest) => .ok (.list items, rest)
        | .error f => .error f
    | '{' :: rest =>
      match skip rest with
      | '}' :: rest => .ok (.dict [], rest)
      | rest =>
        match readEntries limit fuel rest with
        | .ok (entries, rest) => .ok (.ofEntries entries, rest)
        | .error f => .error f
    | _ =>
      match readScalar limit cs with
      | .ok (s, rest) => .ok (.scalar s, rest)
      | .error f => .error f

/-- Items up to the closing bracket; there is at least one. -/
def readItems (limit fuel : Nat) (cs : List Char) : Result (List Value) :=
  match fuel with
  | 0 => .error (.malformed .value cs)
  | fuel + 1 =>
    match readValue limit fuel cs with
    | .error f => .error f
    | .ok (v, rest) =>
      match skip rest with
      | ']' :: rest => .ok ([v], rest)
      | ',' :: rest =>
        match readItems limit fuel (skip rest) with
        | .ok (vs, rest) => .ok (v :: vs, rest)
        | .error f => .error f
      | rest => .error (.malformed .comma rest)

/-- Entries up to the closing brace; there is at least one. -/
def readEntries (limit fuel : Nat) (cs : List Char) : Result (List (Scalar × Value)) :=
  match fuel with
  | 0 => .error (.malformed .value cs)
  | fuel + 1 =>
    match cs with
    | '"' :: rest =>
      match readString cs rest with
      | .error f => .error f
      | .ok (key, rest) =>
        match skip rest with
        | ':' :: rest =>
          match readValue limit fuel (skip rest) with
          | .error f => .error f
          | .ok (v, rest) =>
            let entry : Scalar × Value := (.str key, v)
            match skip rest with
            | '}' :: rest => .ok ([entry], rest)
            | ',' :: rest =>
              match readEntries limit fuel (skip rest) with
              | .ok (entries, rest) => .ok (entry :: entries, rest)
              | .error f => .error f
            | rest => .error (.malformed .comma rest)
        | rest => .error (.malformed .colon rest)
    | _ => .error (.malformed .name cs)

end

def Fault.toError (text : List Char) : Fault → Error
  | .malformed problem rest =>
    .malformed problem (.after (text.take (text.length - rest.length)))
  | .tooManyDigits count => .tooManyDigits count

/-- Read a whole text, with nothing but blanks around one value. -/
def parseChars (cs : List Char) : Except Fault Value :=
  if cs.head? == some '\uFEFF' then .error (.malformed .byteOrderMark cs)
  else
    match readValue maxDigits (2 * cs.length + 2) (skip cs) with
    | .error f => .error f
    | .ok (v, rest) =>
      match skip rest with
      | [] => .ok v
      | rest => .error (.malformed .extra rest)

def parse (text : String) : Except Error Value :=
  (parseChars text.toList).mapError (Fault.toError text.toList)

end ServiceMigration.Json
