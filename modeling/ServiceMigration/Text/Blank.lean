/-!
# Blank characters

Two classes of blank characters.  `isBlank` is the class that names, types and answers are trimmed
of; `isWhiteSpace` is the Unicode property White_Space, which numbers written as text are trimmed
of.  They differ in the four separators U+001C to U+001F.
-/

namespace ServiceMigration.Text

def isWhiteSpace (c : Char) : Bool :=
  let n := c.toNat
  (9 ≤ n && n ≤ 13) || n == 0x20 || n == 0x85 || n == 0xA0 || n == 0x1680 ||
    (0x2000 ≤ n && n ≤ 0x200A) || n == 0x2028 || n == 0x2029 || n == 0x202F || n == 0x205F ||
    n == 0x3000

def isBlank (c : Char) : Bool :=
  isWhiteSpace c || (0x1C ≤ c.toNat && c.toNat ≤ 0x1F)

/-- Drop the characters of a class from both ends. -/
def trimBoth (p : Char → Bool) (cs : List Char) : List Char :=
  ((cs.dropWhile p).reverse.dropWhile p).reverse

/-- The text without blanks at its ends. -/
def strip (s : String) : String :=
  String.ofList (trimBoth isBlank s.toList)

def isAllBlank (s : String) : Bool :=
  s.toList.all isBlank

end ServiceMigration.Text
