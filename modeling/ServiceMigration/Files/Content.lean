import ServiceMigration.Files.Tree
/-!
# Files as text

A file holds bytes.  It is read as UTF-8, and line ends of every kind are taken for one.
-/

namespace ServiceMigration

/-- Why a file gives no text. -/
inductive ContentProblem where
  | unreadable (e : FileError)
  | undecodable
  deriving DecidableEq, Repr

def decodeText? (content : ByteArray) : Option String :=
  (String.fromUTF8? content).map fun s => String.ofList (Text.universalNewlines s.toList)

def encodeText (text : String) : ByteArray := text.toUTF8

namespace FileTree

def readText (t : FileTree) (cwd : List String) (p : Path) : Except ContentProblem String :=
  match t.read cwd p with
  | .error e => .error (.unreadable e)
  | .ok content =>
    match decodeText? content with
    | some text => .ok text
    | none => .error .undecodable

def writeText (t : FileTree) (cwd : List String) (p : Path) (text : String) :
    Except FileError FileTree :=
  t.write cwd p (encodeText text)

end FileTree

end ServiceMigration
