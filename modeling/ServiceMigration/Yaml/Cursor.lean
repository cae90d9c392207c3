import ServiceMigration.Value.Display
/-!
# Places in a YAML text

A cursor is the rest of a text with the place where it begins: how many characters, lines and
columns lie before it.  Many characters of YAML matter only by what follows them, and the end of the
text counts as the end of a line there, so the classes below take a character that may be missing.
-/

namespace ServiceMigration.Yaml

structure Mark where
  index : Nat := 0
  line : Nat := 0
  column : Nat := 0
  deriving DecidableEq, Repr

/-- The rest of a text, and where it begins. -/
structure Cursor where
  rest : List Char
  mark : Mark := {}
  deriving Repr

def isBreak (c : Char) : Bool :=
  c == '\n' || c == '\r' || c == '\x85' || c == '\u2028' || c == '\u2029'

def isGap (c : Char) : Bool := c == ' ' || c == '\t'

def endsLine (c : Option Char) : Bool := (c.map isBreak).getD true

def endsField (c : Option Char) : Bool := c == some ' ' || endsLine c

def endsWord (c : Option Char) : Bool := c == some '\t' || endsField c

def isNameChar (c : Char) : Bool :=
  ('0' ≤ c && c ≤ '9') || ('A' ≤ c && c ≤ 'Z') || ('a' ≤ c && c ≤ 'z') || c == '-' || c == '_'

namespace Cursor

/-- The character that stands `n` characters ahead. -/
def peek (c : Cursor) (n : Nat := 0) : Option Char := c.rest[n]?

/-- The place after a character with a given rest.  A byte order mark takes no column. -/
def markAfter (m : Mark) (ch : Char) (rest : List Char) : Mark :=
  if isBreak ch && !(ch == '\r' && rest.head? == some '\n') then
    { index := m.index + 1, line := m.line + 1, column := 0 }
  else if ch == '\uFEFF' then { m with index := m.index + 1 }
  else { m with index := m.index + 1, column := m.column + 1 }

def advance (c : Cursor) : Nat → Cursor
  | 0 => c
  | n + 1 =>
    match c.rest with
    | [] => c
    | ch :: rest => advance ⟨rest, markAfter c.mark ch rest⟩ n

def span (c : Cursor) (p : Char → Bool) : List Char := c.rest.takeWhile p

def skip (c : Cursor) (p : Char → Bool) : Cursor := c.advance (c.span p).length

def skipSpaces (c : Cursor) : Cursor := c.skip (· == ' ')

/-- Move to the end of the line if a comment stands here. -/
def skipComment (c : Cursor) : Cursor :=
  if c.peek == some '#' then c.skip (!isBreak ·) else c

def atEnd (c : Cursor) : Bool := c.rest.isEmpty

def atBreak (c : Cursor) : Bool := (c.peek.map isBreak).getD false

/-- Move past a line break, and say how it counts in a scalar. -/
def lineBreak (c : Cursor) : List Char × Cursor :=
  match c.rest with
  | '\r' :: '\n' :: _ => (['\n'], c.advance 2)
  | ch :: _ =>
    if ch == '\n' || ch == '\r' || ch == '\x85' then (['\n'], c.advance 1)
    else if isBreak ch then ([ch], c.advance 1)
    else ([], c)
  | [] => ([], c)

def atTriple (c : Cursor) (ch : Char) : Bool :=
  c.rest.take 3 == [ch, ch, ch] && endsWord (c.peek 3)

def atSeparator (c : Cursor) : Bool := c.atTriple '-' || c.atTriple '.'

end Cursor

/-- A character in quotes, as messages show it; the end of the text is shown as the null
character. -/
def shown (c : Option Char) : String := Text.quoted (String.singleton (c.getD '\x00'))

/-- What is wrong with a text: what was being read, and from where on; what was found, and where. -/
structure Complaint where
  context : Option (String × Option Mark) := none
  problem : String
  place : Mark
  deriving DecidableEq, Repr

/-- Why a text gives no document. -/
inductive Fault where
  | unacceptable (code index : Nat)
  | malformed (c : Complaint)
  | noSuchTime (explanation : String)
  | noNumber (base : Option Nat) (text : String)
  | tooManyDigits (count : Nat)
  deriving DecidableEq, Repr

def Fault.within (context : String) (start : Mark) (problem : String) (place : Mark) : Fault :=
  .malformed { context := some (context, some start), problem, place }

def Fault.at (problem : String) (place : Mark) : Fault := .malformed { problem, place }

namespace Mark

/-- The part of a list of characters that is shown, with a sign that it was cut. -/
def excerpt (cs : List Char) : List Char × String :=
  if 37 ≤ cs.length then (cs.take 32, " ... ") else (cs, "")

def snippet (m : Mark) (source : List Char) : String :=
  let inLine (cs : List Char) : List Char := cs.takeWhile (!isBreak ·)
  let (before, head) := excerpt (inLine (source.take m.index).reverse)
  let (after, tail) := excerpt (inLine (source.drop m.index))
  "    " ++ head ++ String.ofList before.reverse ++ String.ofList after ++ tail ++ "\n" ++
    String.ofList (List.replicate (4 + before.length + head.length) ' ') ++ "^"

def text (m : Mark) (source : List Char) : String :=
  "  in \"<unicode string>\", line " ++ toString (m.line + 1) ++ ", column " ++
    toString (m.column + 1) ++ ":\n" ++ m.snippet source

end Mark

/-- The lines of a complaint.  A context that begins where the problem is needs no place. -/
def Complaint.lines (c : Complaint) (source : List Char) : List String :=
  (match c.context with
    | none => []
    | some (context, none) => [context]
    | some (context, some start) =>
      if start.line = c.place.line && start.column = c.place.column then [context]
      else [context, start.text source]) ++
  [c.problem, c.place.text source]

/-- A number in base sixteen with at least four digits. -/
def codeText (code : Nat) : String :=
  let ds := Nat.toDigits 16 code
  String.ofList (List.replicate (4 - ds.length) '0' ++ ds)

def Fault.text (source : List Char) : Fault → String
  | .unacceptable code index =>
    "unacceptable character #x" ++ codeText code ++
      ": special characters are not allowed\n  in \"<unicode string>\", position " ++ toString index
  | .malformed c => String.intercalate "\n" (c.lines source)
  | .noSuchTime explanation => explanation
  | .noNumber .. | .tooManyDigits _ => ""

end ServiceMigration.Yaml
