import ServiceMigration.Text.Cut
/-!
# Paths

A path is a root, which is empty for a relative path, and the names that follow it.  Empty names and
single dots are dropped when a path is read, double dots are kept, so every path has one written
form.
-/

namespace ServiceMigration

structure Path where
  root : String := ""
  parts : List String := []
  deriving DecidableEq, Repr

namespace Path

/-- The names in a text that lead somewhere. -/
def namesOf (text : String) : List String :=
  ((Text.splitAt '/' text.toList).map String.ofList).filter fun name => name != "" && name != "."

/-- One slash at the beginning is a root; two, but not more, are another one. -/
def rootOf (text : String) : String :=
  match text.toList with
  | '/' :: '/' :: '/' :: _ => "/"
  | '/' :: '/' :: _ => "//"
  | '/' :: _ => "/"
  | _ => ""

def ofString (text : String) : Path where
  root := rootOf text
  parts := namesOf text

def toText (p : Path) : String :=
  if p.root == "" && p.parts.isEmpty then "."
  else p.root ++ String.intercalate "/" p.parts

/-- A path seen from another one; a path with a root stands on its own. -/
def join (base p : Path) : Path :=
  if p.root == "" then { base with parts := base.parts ++ p.parts } else p

def child (base : Path) (text : String) : Path := base.join (ofString text)

/-- The path without its last name. -/
def parent (p : Path) : Path := { p with parts := p.parts.dropLast }

/-- The last name. -/
def name (p : Path) : String := p.parts.getLast?.getD ""

/-- The last name, cut before its last dot where something stands on both sides of it. -/
def splitName (name : String) : List Char × List Char :=
  let cs := name.toList
  match Text.beforeLast? '.' cs with
  | none => (cs, [])
  | some stem =>
    let ending := cs.drop stem.length
    if stem.isEmpty || ending.length = 1 then (cs, []) else (stem, ending)

/-- The last name without its ending. -/
def stem (p : Path) : String := String.ofList (splitName p.name).1

/-- The ending of the last name, from its dot on. -/
def suffix (p : Path) : String := String.ofList (splitName p.name).2

/-- The names from the top of all directories down, for a path seen from a working directory. -/
def fromTop (cwd : List String) (p : Path) : List String :=
  if p.root == "" then cwd ++ p.parts else p.parts

/-- Follow names from a place; a double dot goes up, and at the top it stays. -/
def follow (place : List String) : List String → List String
  | [] => place
  | name :: rest => follow (if name == ".." then place.dropLast else place ++ [name]) rest

/-- The place that a path leads to when no name on the way is a link. -/
def resolve (cwd : List String) (p : Path) : List String := follow [] (fromTop cwd p)

end Path

def placeText (place : List String) : String := "/" ++ String.intercalate "/" place

end ServiceMigration
