/-!
# Numbers in base sixteen
-/

namespace ServiceMigration.Text

/-- A number in base sixteen with at least `width` digits, letters small. -/
def hex (width n : Nat) : List Char :=
  let ds := Nat.toDigits 16 n
  List.replicate (width - ds.length) '0' ++ ds

end ServiceMigration.Text
