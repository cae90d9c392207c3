import ServiceMigration.Validation.Scalars
import ServiceMigration.Workspace
import ServiceMigration.Yaml.Document
/-!
# Settings

What a migration is told besides its input.  A setting comes from what is given directly, or else
from the environment, or else from a file, or else it has its usual value; each setting is looked
for on its own, so a value that is overruled is never examined.
-/

namespace ServiceMigration

structure Settings where
  input : Option Path := none
  output : Option Path := none
  /-- Most endpoints in a chunk. -/
  maxChunkSize : Int := 10
  cacheDirectory : Path := Path.ofString ".migrator-cache"
  /-- Ask a language model, and not only the rules. -/
  usesModel : Bool := true
  model : Option String := none
  timeout : Option Double := none
  promptsDirectory : Option Path := none
  deriving DecidableEq, Repr

namespace Settings

/-- The names of all settings. -/
def names : List String :=
  ["input", "output", "max_chunk_size", "cache_dir", "use_llm", "model", "timeout", "prompts_dir"]

def variableName (name : String) : String :=
  "API_MIGRATOR_" ++ String.ofList (name.toList.map Char.toUpper)

/-! ### The layers -/

def environmentValues (w : Workspace) : List (Scalar × Value) :=
  names.filterMap fun name =>
    (w.environmentValue? (variableName name)).map fun text => (.str name, .str text)

/-- The name of a setting for a key of a file, where a dash counts as an underscore. -/
def settingName (key : String) : String :=
  String.ofList (key.toList.map fun c => if c == '-' then '_' else c)

def sectionValues : List (Scalar × Value) → Except Failure (List (Scalar × Value))
  | [] => .ok []
  | (.str key, v) :: rest => (sectionValues rest).map ((.str (settingName key), v) :: ·)
  | (.moment _, _) :: _ => .error (.accident .notText)
  | _ :: _ => .error (.accident .lacksParts)

/-- The key of the section that may hold all settings of a file. -/
def sectionKey : Scalar := .str "migrator"

def documentValues (path : Path) : Value → Except Failure (List (Scalar × Value))
  | .scalar .null => .ok []
  | .dict entries =>
    match Value.entry? sectionKey entries with
    | none => sectionValues entries
    | some (.dict inner) => sectionValues inner
    | some _ => .error (.settings (.sectionNotMapping path))
  | _ => .error (.settings (.notMapping path))

def ofFault (path : Path) (text : String) : Yaml.Fault → Failure
  | .noSuchTime explanation => .badValue (.noSuchTime explanation)
  | .noNumber base text => .badValue (.noNumber base text)
  | .tooManyDigits count => .badValue (.tooManyDigits count)
  | e => .settings (.malformed path (e.text text.toList))

def fileValues (w : Workspace) (path : Path) : Except Failure (List (Scalar × Value)) :=
  match w.tree.readText w.cwd path with
  | .error (.unreadable e) => .error (.settings (.unreadable path e))
  | .error .undecodable => .error .undecodable
  | .ok text =>
    match Yaml.parse text with
    | .error e => .error (ofFault path text e)
    | .ok v => documentValues path v

/-- Put the values of a higher layer over those of a lower one. -/
def layer (lower higher : List (Scalar × Value)) : List (Scalar × Value) :=
  higher.foldl (fun acc (k, v) => Value.insertEntry k v acc) lower

def givenValues (given : List (String × Value)) : List (Scalar × Value) :=
  given.filterMap fun (name, v) =>
    match v with
    | .scalar .null => none
    | v => some (.str name, v)

/-! ### Reading -/

open Validation in
def readPath : Value → Checked Path
  | .scalar (.str s) => .ok (Path.ofString s)
  | _ => .fail .notPath

open Validation in
/-- A size of chunks, which is at least one. -/
def readSize (v : Value) : Checked Int :=
  (readInt v).andThen fun n => if n < 1 then .fail (.belowLeast 1) else .ok n

open Validation in
/-- A time to wait, which is more than none. -/
def readTimeout (v : Value) : Checked Double :=
  (readFloat v).andThen fun d => if d.isPositive then .ok d else .fail (.notAbove 0)

open Validation in
def readEntries (es : List (Scalar × Value)) : Checked Settings :=
  Settings.mk
    <$> defaulted ["input"] none (readOptional readPath) es
    <*> defaulted ["output"] none (readOptional readPath) es
    <*> defaulted ["max_chunk_size"] 10 readSize es
    <*> defaulted ["cache_dir"] (Path.ofString ".migrator-cache") readPath es
    <*> defaulted ["use_llm"] true readBool es
    <*> defaulted ["model"] none (readOptional readString) es
    <*> defaulted ["timeout"] none (readOptional readTimeout) es
    <*> defaulted ["prompts_dir"] none (readOptional readPath) es

/-- Settings from the values of all layers. -/
def ofEntries (es : List (Scalar × Value)) : Except Failure Settings :=
  match readEntries es with
  | .ok s => .ok s
  | .issues i is => .error (.settings (.invalid ⟨"MigrationSettings", i :: is⟩))
  | .accident a => .error (.accident a)

/-- Settings from a file if there is one, the environment, and what is given directly. -/
def load (w : Workspace) (file : Option Path) (given : List (String × Value)) :
    Except Failure Settings := do
  let low ← match file with
    | none => .ok []
    | some path => fileValues w path
  ofEntries (layer (layer (layer [] low) (environmentValues w)) (givenValues given))

def pathValue (p : Path) : Value := .str p.toText

def toValue (s : Settings) : Value :=
  .object [
    ("input", .optional pathValue s.input),
    ("output", .optional pathValue s.output),
    ("max_chunk_size", .int s.maxChunkSize),
    ("cache_dir", pathValue s.cacheDirectory),
    ("use_llm", .bool s.usesModel),
    ("model", .optional .str s.model),
    ("timeout", .optional .float s.timeout),
    ("prompts_dir", .optional pathValue s.promptsDirectory)]

end Settings

end ServiceMigration
