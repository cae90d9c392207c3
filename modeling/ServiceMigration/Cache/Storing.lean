import ServiceMigration.Files.Content
/-!
# Storing a text in one step

A reader must never see half of a text under its name.  So a text is written to a temporary file in
the same directory, which then takes the name.  The file steps of this are a small machine: each
step may fail, a step that writes may write only a part, and after a failure the temporary file is
removed.  It is not removed where the text cannot be made, which shows when the temporary file is
there already.
-/

namespace ServiceMigration.Storing

/-- What is to be stored, and where.  There is no content if the text cannot be made. -/
structure Job where
  directory : Path
  name : String
  content : Option (List UInt8)

/-- How a job ends: the text is in its place, or a step has failed, or there was no text. -/
inductive Ending where
  | stored
  | failed (e : FileError)
  | abandoned
  deriving DecidableEq, Repr

/-- How far a job has got.  From the second phase on a temporary file is there. -/
inductive Phase where
  | creating
  | writing (temporary : List String) (rest : List UInt8)
  | closing (temporary : List String)
  | replacing (temporary : List String)
  | removing (temporary : List String) (e : FileError)
  /-- There is no text, and all that is left to do is to close the temporary file. -/
  | abandoning (temporary : List String)
  | done (ending : Ending)
  deriving DecidableEq, Repr

/-- What happens to one step from outside: it fails, or it writes only so many bytes. -/
structure Chance where
  fault : Option FileError := none
  amount : Option Nat := none
  deriving DecidableEq, Repr

def temporaryName (n : Nat) : String :=
  String.ofList ('.' :: (Text.hex 8 n ++ ".tmp".toList))

/-- A temporary name that is not in use in a directory. -/
def freshName (t : FileTree) (place : List String) : String :=
  let taken := t.namesIn place
  match (List.range (taken.length + 1)).find? fun n => !taken.contains (temporaryName n) with
  | some n => temporaryName n
  | none => temporaryName 0

/-- The bytes of a file; none if there is no file. -/
def contentAt (t : FileTree) (place : List String) : List UInt8 :=
  match t.get? place with
  | some (.file content) => content.toList
  | _ => []

def append (t : FileTree) (place : List String) (bytes : List UInt8) : FileTree :=
  t.put place (.file ⟨(contentAt t place ++ bytes).toArray⟩)

def temporaryPath (cwd : List String) (job : Job) (temporary : String) : String :=
  placeText (job.directory.resolve cwd ++ [temporary])

def create (cwd : List String) (job : Job) (t : FileTree) :
    Except FileError (FileTree × List String) :=
  match t.locate cwd (job.directory.child "x") with
  | .error problem => .error ⟨problem, temporaryPath cwd job (temporaryName 0), none⟩
  | .ok place =>
    let directory := place.dropLast
    let temporary := directory ++ [freshName t directory]
    .ok (t.put temporary (.file ⟨#[]⟩), temporary)

def replace (cwd : List String) (job : Job) (temporary : List String) (t : FileTree) :
    Except FileError FileTree :=
  let target := temporary.dropLast ++ [job.name]
  match t.get? target with
  | some .directory =>
    .error ⟨.isDirectory, temporaryPath cwd job (temporary.getLast?.getD ""),
      some (job.directory.child job.name).toText⟩
  | _ => .ok ((t.put target (.file ⟨(contentAt t temporary).toArray⟩)).erase temporary)

def step (cwd : List String) (job : Job) (chance : Chance) (t : FileTree) :
    Phase → FileTree × Phase
  | .creating =>
    match chance.fault, create cwd job t with
    | some e, _ => (t, .done (.failed e))
    | none, .error e => (t, .done (.failed e))
    | none, .ok (t, temporary) =>
      match job.content with
      | some content => (t, .writing temporary content)
      | none => (t, .abandoning temporary)
  | .writing temporary rest =>
    match chance.fault with
    | some e => (t, .removing temporary e)
    | none =>
      let amount := chance.amount.getD rest.length
      let left := rest.drop amount
      (append t temporary (rest.take amount),
        if left.isEmpty then .closing temporary else .writing temporary left)
  | .closing temporary =>
    match chance.fault with
    | some e => (t, .removing temporary e)
    | none => (t, .replacing temporary)
  | .replacing temporary =>
    match chance.fault, replace cwd job temporary t with
    | some e, _ => (t, .removing temporary e)
    | none, .error e => (t, .removing temporary e)
    | none, .ok t => (t, .done .stored)
  | .removing temporary e =>
    match chance.fault with
    | some _ => (t, .done (.failed e))
    | none => (t.erase temporary, .done (.failed e))
  | .abandoning temporary =>
    match chance.fault with
    | some e => (t, .removing temporary e)
    | none => (t, .done .abandoned)
  | .done ending => (t, .done ending)

/-- Go through steps with what happens to each. -/
def steps (cwd : List String) (job : Job) : List Chance → FileTree → Phase → FileTree × Phase
  | [], t, phase => (t, phase)
  | chance :: rest, t, phase =>
    let (t, phase) := step cwd job chance t phase
    steps cwd job rest t phase

/-- Nothing happens from outside.  Four steps do a store, and a fifth removes the temporary file if
the last of them failed. -/
def undisturbed : List Chance := List.replicate 5 {}

/-- Store a text while this happens to its steps. -/
def run (cwd : List String) (job : Job) (chances : List Chance) (t : FileTree) :
    FileTree × Ending :=
  match steps cwd job chances t .creating with
  | (t, .done ending) => (t, ending)
  | (t, _) => (t, .stored)

end ServiceMigration.Storing
