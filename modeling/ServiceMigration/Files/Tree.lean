import ServiceMigration.Files.Path
import ServiceMigration.Value.Display
/-!
# Files and directories

The files that a run sees and changes, as a value: a list of entries, each at a place given by the
names from the top.  Operations fail for the reasons for which a file system makes them fail, and
the failures have the file system's numbers and words.
-/

namespace ServiceMigration

inductive FileProblem where
  | notFound
  | exists
  | notDirectory
  | isDirectory
  | nameTooLong
  deriving DecidableEq, Repr

namespace FileProblem

def number : FileProblem → Nat
  | .notFound => 2
  | .exists => 17
  | .notDirectory => 20
  | .isDirectory => 21
  | .nameTooLong => 36

def words : FileProblem → String
  | .notFound => "No such file or directory"
  | .exists => "File exists"
  | .notDirectory => "Not a directory"
  | .isDirectory => "Is a directory"
  | .nameTooLong => "File name too long"

end FileProblem

/-- A failed operation, with the path that was used and a second one where there were two. -/
structure FileError where
  problem : FileProblem
  path : String
  target : Option String := none
  deriving DecidableEq, Repr

def FileError.text (e : FileError) : String :=
  "[Errno " ++ toString e.problem.number ++ "] " ++ e.problem.words ++ ": " ++ Text.quoted e.path ++
    ((e.target.map fun t => " -> " ++ Text.quoted t).getD "")

inductive FileEntry where
  | directory
  | file (content : ByteArray)

/-- Files and directories by place.  The top is a directory and needs no entry. -/
structure FileTree where
  entries : List (List String × FileEntry) := []

namespace FileTree

def get? (t : FileTree) (place : List String) : Option FileEntry :=
  if place.isEmpty then some .directory else t.entries.lookup place

/-- Put something at a place, in the stead of what is there. -/
def put (t : FileTree) (place : List String) (e : FileEntry) : FileTree :=
  { entries := t.entries.filter (·.1 != place) ++ [(place, e)] }

def erase (t : FileTree) (place : List String) : FileTree :=
  { entries := t.entries.filter (·.1 != place) }

/-- Remove a place and all that is below it. -/
def eraseBelow (t : FileTree) (place : List String) : FileTree :=
  { entries := t.entries.filter fun e => !place.isPrefixOf e.1 }

def isTooLong (name : String) : Bool := 255 < name.utf8ByteSize

/-- Follow names through directories.  Every name but the last has to be one of a directory; the
last need not exist. -/
def walk (t : FileTree) (place : List String) : List String → Except FileProblem (List String)
  | [] => .ok place
  | [name] =>
    if name == ".." then .ok place.dropLast
    else if isTooLong name then .error .nameTooLong
    else .ok (place ++ [name])
  | name :: rest =>
    if name == ".." then walk t place.dropLast rest
    else if isTooLong name then .error .nameTooLong
    else
      match t.get? (place ++ [name]) with
      | some .directory => walk t (place ++ [name]) rest
      | some (.file _) => .error .notDirectory
      | none => .error .notFound

def locate (t : FileTree) (cwd : List String) (p : Path) : Except FileProblem (List String) :=
  walk t [] (p.fromTop cwd)

def at? (t : FileTree) (cwd : List String) (p : Path) : Option FileEntry :=
  match t.locate cwd p with
  | .ok place => t.get? place
  | .error _ => none

def isFile (t : FileTree) (cwd : List String) (p : Path) : Bool :=
  match t.at? cwd p with
  | some (.file _) => true
  | _ => false

def isDirectory (t : FileTree) (cwd : List String) (p : Path) : Bool :=
  match t.at? cwd p with
  | some .directory => true
  | _ => false

def read (t : FileTree) (cwd : List String) (p : Path) : Except FileError ByteArray :=
  match t.locate cwd p with
  | .error problem => .error ⟨problem, p.toText, none⟩
  | .ok place =>
    match t.get? place with
    | some (.file content) => .ok content
    | some .directory => .error ⟨.isDirectory, p.toText, none⟩
    | none => .error ⟨.notFound, p.toText, none⟩

def write (t : FileTree) (cwd : List String) (p : Path) (content : ByteArray) :
    Except FileError FileTree :=
  match t.locate cwd p with
  | .error problem => .error ⟨problem, p.toText, none⟩
  | .ok place =>
    match t.get? place with
    | some .directory => .error ⟨.isDirectory, p.toText, none⟩
    | _ => .ok (t.put place (.file content))

def makeDirectory (t : FileTree) (cwd : List String) (p : Path) : Except FileProblem FileTree :=
  match t.locate cwd p with
  | .error problem => .error problem
  | .ok place =>
    match t.get? place with
    | some _ => .error .exists
    | none => .ok (t.put place .directory)

/-- Make a directory unless it is there; what is in the way is reported. -/
def ensureDirectory (t : FileTree) (cwd : List String) (p : Path) : FileTree × Option FileError :=
  match t.makeDirectory cwd p with
  | .ok t => (t, none)
  | .error problem =>
    if problem != .notFound && t.isDirectory cwd p then (t, none)
    else (t, some ⟨problem, p.toText, none⟩)

/-- Make a directory unless it is there, with those above it, for the names below a root.  Only when
a directory above is missing is it made first.  `fuel` bounds the way up. -/
def makeDirectoriesUp (cwd : List String) (root : String) :
    Nat → FileTree → List String → FileTree × Option FileError
  | 0, t, parts => t.ensureDirectory cwd { root, parts }
  | fuel + 1, t, parts =>
    match t.ensureDirectory cwd { root, parts } with
    | (t, some ⟨.notFound, path, target⟩) =>
      if parts.isEmpty then (t, some ⟨.notFound, path, target⟩)
      else
        match makeDirectoriesUp cwd root fuel t parts.dropLast with
        | (t, some e) => (t, some e)
        | (t, none) => t.ensureDirectory cwd { root, parts }
    | outcome => outcome

/-- Make a directory unless it is there, with those above it.  Where one cannot be made, those above
it stay. -/
def makeDirectories (t : FileTree) (cwd : List String) (p : Path) : FileTree × Option FileError :=
  makeDirectoriesUp cwd p.root p.parts.length t p.parts

def namesIn (t : FileTree) (place : List String) : List String :=
  t.entries.filterMap fun e =>
    if e.1.length = place.length + 1 && place.isPrefixOf e.1 then e.1.getLast? else none

end FileTree

end ServiceMigration
