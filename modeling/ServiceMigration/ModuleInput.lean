import ServiceMigration.Json.Reader
import ServiceMigration.Service.Analysis
import ServiceMigration.Workspace
import ServiceMigration.Yaml.Document
/-!
# Analysis files

Each module of a service comes as one file, written in JSON or, with any other ending, in YAML.  The
file holds what was discovered, and perhaps the names of project and module and free metadata; what
is not there follows from where the file is.
-/

namespace ServiceMigration

/-- What was discovered about a module, and the module that it describes. -/
structure ModuleInput where
  analysis : Analysis
  module : ModuleSpec
  deriving DecidableEq, Repr

namespace ModuleInput

def ofFault (path : Path) (text : String) : Yaml.Fault → Failure
  | .noSuchTime explanation => .badValue (.noSuchTime explanation)
  | .noNumber base text => .badValue (.noNumber base text)
  | .tooManyDigits count => .badValue (.tooManyDigits count)
  | e => .input (.malformedYaml path (e.text text.toList))

def documentOf (path : Path) (text : String) : Except Failure Value :=
  if path.suffix == ".json" then
    match Json.parse text with
    | .ok v => .ok v
    | .error (.tooManyDigits count) => .error (.badValue (.tooManyDigits count))
    | .error e => .error (.input (.malformedJson path e.text))
  else (Yaml.parse text).mapError (ofFault path text)

def payload (w : Workspace) (path : Path) : Except Failure (List (Scalar × Value)) :=
  match w.tree.readText w.cwd path with
  | .error (.unreadable e) => .error (.input (.unreadable path e))
  | .error .undecodable => .error .undecodable
  | .ok text =>
    match documentOf path text with
    | .error e => .error e
    | .ok (.dict entries) => .ok entries
    | .ok _ => .error (.input (.notMapping path))

def ofAnalysisError : Analysis.Error → Failure
  | .invalid report => .input (.invalidPayload report)
  | .accident a => .accident a

def valueOr (entries : List (Scalar × Value)) (key absent : String) : Value :=
  match Value.entry? (.str key) entries with
  | none => .str absent
  | some v => if v.isFalsy then .str absent else v

/-- An entry that is not there yet. -/
def orInsert (key : String) (value : Value) (entries : List (Scalar × Value)) :
    List (Scalar × Value) :=
  if (Value.entry? (.str key) entries).isSome then entries
  else Value.insertEntry (.str key) value entries

/-- The metadata of a payload cannot be written out as text. -/
def hasLongMetadata (entries : List (Scalar × Value)) : Bool :=
  match Value.entry? (.str "metadata") entries with
  | some (.dict es) => Value.entriesHaveLongNumber es
  | _ => false

/-- The metadata of a payload, all of it as text, with the place and the name of the module. -/
def metadata (entries : List (Scalar × Value)) (place : String) (moduleName : Value) :
    List (String × Value) :=
  let given := match Value.entry? (.str "metadata") entries with
    | some (.dict es) => es.foldl
        (fun acc (k, v) => Value.insertEntry (.str k.text) (.str v.text) acc) []
    | _ => []
  (orInsert "module" moduleName (orInsert "root" (.str place) given)).map fun (k, v) => (k.text, v)

def make (w : Workspace) (path : Path) (entries : List (Scalar × Value)) (a : Analysis) :
    Except Failure ModuleInput :=
  let directory := (path.resolve w.cwd).dropLast
  let projectName := valueOr entries "projectName" (directory.getLast?.getD "")
  let moduleName := valueOr entries "moduleName" path.stem
  if hasLongMetadata entries then .error (.badValue .tooLongToWrite)
  else
    match a.readModule projectName moduleName
        (metadata entries (placeText directory) moduleName) with
    | .ok m => .ok { analysis := a, module := m }
    | .issues i is => .error (.invalid ⟨"MigrationSpec", i :: is⟩)
    | .accident e => .error (.accident e)

/-- The module of a file, with what is written down on the way. -/
def load (w : Workspace) (path : Path) : List Record × Except Failure ModuleInput :=
  match payload w path with
  | .error e => ([], .error e)
  | .ok entries =>
    let (records, outcome) := Analysis.ofEntries entries
    (records, (outcome.mapError ofAnalysisError).bind fun a => make w path entries a)

/-- The modules of several files, up to the first that fails. -/
def loadAll (w : Workspace) : List Path → List Record × Except Failure (List ModuleInput)
  | [] => ([], .ok [])
  | path :: rest =>
    match load w path with
    | (records, .error e) => (records, .error e)
    | (records, .ok m) =>
      let (more, outcome) := loadAll w rest
      (records ++ more, outcome.map (m :: ·))

def suffixes : List String := [".json", ".yaml", ".yml"]

def filesIn (w : Workspace) (directory : Path) : List Path :=
  match w.tree.locate w.cwd directory with
  | .error _ => []
  | .ok place =>
    (((w.tree.namesIn place).mergeSort (fun a b => !decide (b < a))).map directory.child).filter
      fun p => suffixes.contains p.suffix && w.tree.isFile w.cwd p

/-- The modules of one file, or of all analysis files of a directory. -/
def loadFrom (w : Workspace) (path : Path) : List Record × Except Failure (List ModuleInput) :=
  if w.tree.isFile w.cwd path then
    let (records, outcome) := load w path
    (records, outcome.map fun m => [m])
  else if w.tree.isDirectory w.cwd path then loadAll w (filesIn w path)
  else ([], .error (.input (.notFound path)))

end ModuleInput

end ServiceMigration
