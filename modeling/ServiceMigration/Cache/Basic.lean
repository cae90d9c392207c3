import ServiceMigration.Api.Answer
import ServiceMigration.Cache.Key
import ServiceMigration.Cache.Storing
import ServiceMigration.Workspace
/-!
# The cache of answers

One file for every chunk that was answered, named after the key of the chunk.  Trouble with the
files costs an answer and no more: it is written down, and the chunk counts as not cached.  A chunk
without a key and an answer without a text end the run.
-/

namespace ServiceMigration

/-- A cache in a directory; without one, or where it cannot be made, nothing is kept. -/
structure Cache where
  directory : Option Path
  enabled : Bool
  deriving DecidableEq, Repr

namespace Cache

def disabled : Cache := { directory := none, enabled := false }

/-- Open the cache of a directory, which is made where it is missing. -/
def openAt (directory : Option Path) (w : Workspace) : Cache × Workspace :=
  match directory with
  | none => (disabled, w)
  | some d =>
    match w.tree.makeDirectories w.cwd d with
    | (tree, none) => ({ directory := some d, enabled := true }, { w with tree })
    | (tree, some e) =>
      ({ directory := some d, enabled := false },
        ({ w with tree }).record ⟨.warning, "Could not create cache dir " ++ d.toText ++
          ", caching disabled: " ++ e.text⟩)

/-- The name of the file that is kept for a key. -/
def entryName (key : String) : String := key ++ ".json"

/-- The key of a chunk; to ask for one that there is not fails. -/
def keyOf (m : ModuleSpec) : Except Failure String :=
  match m.contentKey with
  | some key => .ok key
  | none => .error (.badValue .tooLongToWrite)

/-- Where the entry of a chunk is, if the cache has a directory. -/
def pathOf (c : Cache) (m : ModuleSpec) : Except Failure (Option Path) :=
  match c.directory with
  | none => .ok none
  | some d => (keyOf m).map fun key => some (d.child (entryName key))

def readEntry (name : String) :
    Except ContentProblem String → Except Failure (Option ApiSpec) × List Record
  | .error (.unreadable e) =>
    if e.problem == .notFound then (.ok none, [])
    else (.ok none, [⟨.warning, "Could not read cache entry " ++ name ++ ": " ++ e.text⟩])
  | .error .undecodable => (.error .undecodable, [])
  | .ok text =>
    match ApiSpec.parse text with
    | .ok s => (.ok (some s), [])
    | .error (.tooManyDigits count) => (.error (.badValue (.tooManyDigits count)), [])
    | .error e =>
      (.ok none, [⟨.warning, "Ignoring corrupt cache entry " ++ name ++ ": " ++ e.text⟩])

/-- The answer that was kept for a chunk, while this happens to the reading of its entry. -/
def lookupUnder (c : Cache) (fault : Option FileError) (m : ModuleSpec) (w : Workspace) :
    Except Failure (Option ApiSpec) × Workspace :=
  match c.enabled, c.directory with
  | true, some d =>
    match keyOf m with
    | .error e => (.error e, w)
    | .ok key =>
      let found :=
        match fault with
        | some e => .error (.unreadable e)
        | none => w.tree.readText w.cwd (d.child (entryName key))
      let (outcome, records) := readEntry (entryName key) found
      (outcome, w.recordAll records)
  | _, _ => (.ok none, w)

/-- The answer that was kept for a chunk. -/
def lookup (c : Cache) (m : ModuleSpec) (w : Workspace) :
    Except Failure (Option ApiSpec) × Workspace :=
  c.lookupUnder none m w

/-- The bytes of an answer, if it can be written. -/
def bytesOf (answer : ApiSpec) : Option (List UInt8) :=
  answer.prettyText.map fun text => (encodeText text).toList

def job (directory : Path) (key : String) (answer : ApiSpec) : Storing.Job where
  directory
  name := entryName key
  content := bytesOf answer

/-- What the end of a store under a key comes to. -/
def settle (key : String) (w : Workspace) :
    FileTree × Storing.Ending → Except Failure Unit × Workspace
  | (tree, .stored) => (.ok (), { w with tree })
  | (tree, .failed e) =>
    (.ok (), ({ w with tree }).record
      ⟨.warning, "Could not write cache entry " ++ entryName key ++ ": " ++ e.text⟩)
  | (tree, .abandoned) => (.error (.badValue .tooLongToWrite), { w with tree })

/-- Keep an answer while this happens to the steps of the store. -/
def storeUnder (c : Cache) (chances : List Storing.Chance) (m : ModuleSpec) (answer : ApiSpec)
    (w : Workspace) : Except Failure Unit × Workspace :=
  match c.enabled, c.directory with
  | true, some d =>
    match keyOf m with
    | .error e => (.error e, w)
    | .ok key => settle key w (Storing.run w.cwd (job d key answer) chances w.tree)
  | _, _ => (.ok (), w)

def store (c : Cache) (m : ModuleSpec) (answer : ApiSpec) (w : Workspace) :
    Except Failure Unit × Workspace :=
  c.storeUnder Storing.undisturbed m answer w

end Cache

end ServiceMigration
