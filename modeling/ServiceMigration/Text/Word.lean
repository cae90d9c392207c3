import ServiceMigration.Text.WordTable
/-!
# Word characters

A word character is a letter, a digit, a numeral or the underscore.  Combining marks are none.
-/

namespace ServiceMigration.Text

def inRanges (ranges : List (Nat × Nat)) (n : Nat) : Bool :=
  ranges.any fun r => r.1 ≤ n && n ≤ r.2

/-- A letter, digit or numeral of any script, or the underscore. -/
def isWordChar (c : Char) : Bool :=
  if c.toNat < 128 then c.isAlphanum || c == '_' else inRanges wordRanges c.toNat

theorem isWordChar_of_isAlphanum {c : Char} (ascii : c.toNat < 128) (h : c.isAlphanum = true) :
    isWordChar c = true := by
  simp [isWordChar, ascii, h]

end ServiceMigration.Text
