import ServiceMigration.Value.Display
/-!
# Writing JSON

Two blanks of indentation for every level, a blank after a colon, empty containers without a line
break, and no escapes but the necessary ones.  That is how a document looks (`layout`); it is only
written if none of its whole numbers has too many digits (`render`).  `canonical` puts the entries
of every mapping in the order of their keys first, so that documents that differ only in that order
are written alike.
-/

namespace ServiceMigration.Json

def escapeChar (c : Char) : List Char :=
  if c == '"' || c == '\\' then ['\\', c]
  else if c == '\n' then ['\\', 'n']
  else if c == '\r' then ['\\', 'r']
  else if c == '\t' then ['\\', 't']
  else if c == '\x08' then ['\\', 'b']
  else if c == '\x0c' then ['\\', 'f']
  else if c.toNat < 0x20 then '\\' :: 'u' :: Text.hex 4 c.toNat
  else [c]

def writeString (s : String) : List Char :=
  '"' :: (s.toList.flatMap escapeChar ++ ['"'])

/-- Numbers as everywhere, but with JSON's words for what is not finite. -/
def numeral : Numeral := { Numeral.plain with nan := "NaN", infinity := "Infinity" }

def writeInt (i : Int) : List Char :=
  if i < 0 then '-' :: Decimal.digits i.natAbs else Decimal.digits i.natAbs

def writeScalar : Scalar → List Char
  | .null => "null".toList
  | .bool b => (if b then "true" else "false").toList
  | .int i => writeInt i
  | .float d => numeral.ofDouble d
  | .str s => writeString s
  | .moment m => writeString m.text

/-- A key.  Keys are strings, so a scalar of another kind is written as one. -/
def writeKey : Scalar → List Char
  | .str s => writeString s
  | k => writeString (String.ofList (writeScalar k))

def newline (level : Nat) : List Char := '\n' :: List.replicate (2 * level) ' '

mutual

/-- A value inside `level` containers. -/
def write (level : Nat) : Value → List Char
  | .scalar s => writeScalar s
  | .list [] => ['[', ']']
  | .list (v :: vs) =>
    '[' :: (newline (level + 1) ++ writeItems (level + 1) (v :: vs) ++ newline level ++ [']'])
  | .dict [] => ['{', '}']
  | .dict (e :: es) =>
    '{' :: (newline (level + 1) ++ writeEntries (level + 1) (e :: es) ++ newline level ++ ['}'])

def writeItems (level : Nat) : List Value → List Char
  | [] => []
  | [v] => write level v
  | v :: rest => write level v ++ ',' :: (newline level ++ writeItems level rest)

def writeEntries (level : Nat) : List (Scalar × Value) → List Char
  | [] => []
  | [(k, v)] => writeKey k ++ ':' :: ' ' :: write level v
  | (k, v) :: rest =>
    writeKey k ++ ':' :: ' ' :: (write level v ++ ',' :: (newline level ++ writeEntries level rest))

end

/-- How a document looks as text, entries in the order in which it holds them. -/
def layout (v : Value) : String := String.ofList (write 0 v)

/-- A document as text; none if a whole number in it has too many digits to be written out. -/
def render (v : Value) : Option String := if v.hasLongNumber then none else some (layout v)

/-- The text by which entries are ordered. -/
def sortText : Scalar → String
  | .str s => s
  | k => k.text

/-- Put an entry before the first one with a greater key. -/
def insertSorted (e : Scalar × Value) : List (Scalar × Value) → List (Scalar × Value)
  | [] => [e]
  | f :: rest =>
    if sortText e.1 < sortText f.1 then e :: f :: rest else f :: insertSorted e rest

mutual

/-- The document with the entries of every mapping in the order of their keys. -/
def sorted : Value → Value
  | .scalar s => .scalar s
  | .list items => .list (sortedItems items)
  | .dict entries => .dict (sortedEntries entries)

/-- `sorted` of every item. -/
def sortedItems : List Value → List Value
  | [] => []
  | v :: rest => sorted v :: sortedItems rest

/-- Entries with sorted values, in the order of their keys. -/
def sortedEntries : List (Scalar × Value) → List (Scalar × Value)
  | [] => []
  | (k, v) :: rest => insertSorted (k, sorted v) (sortedEntries rest)

end

/-- The text that documents share which differ only in the order of entries, if it can be
written. -/
def canonical (v : Value) : Option String := render (sorted v)

end ServiceMigration.Json
