import ServiceMigration.CommandLine.Arguments
import ServiceMigration.Migration
/-!
# Commands

`migrate` runs a migration and reports what became of each module; `chunks` shows how modules would
be cut up for a language model, and changes nothing.
-/

namespace ServiceMigration.CommandLine

open Completion

/-- What `migrate` is asked to do.  What is not given is left to the settings. -/
structure MigrateRequest where
  input : Path
  output : Path
  settingsFile : Option Path := none
  maxChunkSize : Option Int := none
  cacheDirectory : Option Path := none
  usesModel : Option Bool := none
  model : Option String := none
  verbose : Bool := false
  deriving DecidableEq, Repr

inductive Command where
  | migrate (r : MigrateRequest)
  | chunks (input : Path) (size : Int)
  | help
  /-- The command line is not understood. -/
  | misuse
  deriving DecidableEq, Repr

namespace Command

def helpOption : OptionSpec := { names := ["--help"], setting := "help", fixed := some "" }

def sizeOption : OptionSpec := { names := ["--max-chunk-size"], setting := "size" }

/-- The options of `migrate`. -/
def migrateOptions : List OptionSpec := [
  helpOption,
  sizeOption,
  { names := ["-o", "--output"], setting := "output" },
  { names := ["--config"], setting := "config" },
  { names := ["--cache-dir"], setting := "cache" },
  { names := ["--llm"], setting := "llm", fixed := some "yes" },
  { names := ["--no-llm"], setting := "llm", fixed := some "no" },
  { names := ["--model"], setting := "model" },
  { names := ["-v", "--verbose"], setting := "verbose", fixed := some "" }]

/-- The options of `chunks`. -/
def chunksOptions : List OptionSpec := [helpOption, sizeOption]

/-- A path whose last name is empty or a dot leads to a directory or nowhere. -/
def wantsDirectory (text : String) : Bool :=
  match (Text.splitAt '/' text.toList).getLast? with
  | some name => name.isEmpty || name == ['.']
  | none => false

def existing? (w : Workspace) (text : String) : Option Path :=
  let p := Path.ofString text
  if text.isEmpty || (wantsDirectory text && !w.tree.isDirectory w.cwd p) then none
  else (w.tree.at? w.cwd p).map fun _ => p

/-- A size of chunks, if one is given; it has to be at least one. -/
def size? (a : Arguments) : Option (Option Int) :=
  match a.get? "size" with
  | none => some none
  | some text =>
    match wholeNumber? text with
    | some n => if 1 ≤ n then some (some n) else none
    | none => none

/-- The only argument that is no option, at which there must be something. -/
def input? (w : Workspace) (a : Arguments) : Option Path :=
  match a.positional with
  | [text] => existing? w text
  | _ => none

/-- The file with settings, if one is given; it has to be there. -/
def settingsFile? (w : Workspace) (a : Arguments) : Option (Option Path) :=
  match a.get? "config" with
  | none => some none
  | some text => (existing? w text).map some

/-- What the arguments of `migrate` ask for. -/
def migrateRequest? (w : Workspace) (a : Arguments) : Option MigrateRequest := do
  let input ← input? w a
  let output ← a.get? "output"
  let settingsFile ← settingsFile? w a
  let maxChunkSize ← size? a
  pure {
    input
    output := Path.ofString output
    settingsFile
    maxChunkSize
    cacheDirectory := (a.get? "cache").map Path.ofString
    usesModel := (a.get? "llm").map (· == "yes")
    model := a.get? "model"
    verbose := (a.get? "verbose").isSome }

/-- The usual size of chunks for `chunks`. -/
def usualSize : Int := 10

def ofArguments (options : List OptionSpec) (make : Arguments → Option Command)
    (args : List String) : Command :=
  match Arguments.ofList options args with
  | none => .misuse
  | some a => if (a.get? "help").isSome then .help else (make a).getD .misuse

/-- Pass over the options before the name of a command: whether help is asked for, and what
follows. -/
def skipOptions (asksHelp : Bool) : List String → Option (Bool × List String)
  | [] => some (asksHelp, [])
  | "--help" :: rest => skipOptions true rest
  | "--" :: rest => some (asksHelp, rest)
  | arg :: rest =>
    if arg.toList.head? == some '-' && 1 < arg.length then none else some (asksHelp, arg :: rest)

def ofList (w : Workspace) (args : List String) : Command :=
  match skipOptions false args with
  | some (true, _) => .help
  | some (false, "migrate" :: args) =>
    ofArguments migrateOptions (fun a => (migrateRequest? w a).map .migrate) args
  | some (false, "chunks" :: args) =>
    ofArguments chunksOptions (fun a => do
      let input ← input? w a
      let size ← size? a
      pure (.chunks input (size.getD usualSize))) args
  | _ => .misuse

end Command

structure Outcome where
  exit : Nat
  output : String := ""
  errors : String := ""
  failure : Option Failure := none

namespace Outcome

/-- The end of a command that failed.  A foreseen failure is reported in one line. -/
def failed (output errors : String) (e : Failure) : Outcome where
  exit := 1
  output
  errors := errors ++ (if e.isForeseen then "Error: " ++ (e.text?.getD "") ++ "\n" else "")
  failure := some e

end Outcome

def startLine (input : Path) (settings : Settings) : String :=
  "Migrating " ++ input.toText ++ " (mode: " ++
    (if settings.usesModel then "llm" else "deterministic") ++ ", max chunk size: " ++
    toString settings.maxChunkSize ++ ")...\n"

def resultLine (r : ModuleResult) : String :=
  "  " ++ r.moduleName ++ ": " ++ toString r.api.models.length ++ " models, " ++
    toString r.api.routes.length ++ " routes" ++
    ((r.stats.map fun s => " (" ++ s.summary ++ ")").getD "") ++ "\n"

def endLines (output : Path) (results : List ModuleResult) : String :=
  if results.isEmpty then "No modules found.\n"
  else
    String.join (results.map resultLine) ++ "Done! Artifacts written to " ++ output.toText ++ "\n"

def MigrateRequest.given (r : MigrateRequest) : List (String × Value) := [
  ("input", Settings.pathValue r.input),
  ("output", Settings.pathValue r.output),
  ("max_chunk_size", .optional .int r.maxChunkSize),
  ("cache_dir", .optional Settings.pathValue r.cacheDirectory),
  ("use_llm", .optional .bool r.usesModel),
  ("model", .optional .str r.model)]

/-- Run `migrate`.  The console shows the log from the beginning of the command on. -/
def runMigrate (r : MigrateRequest) (p : Provider κ) (s : Session κ) : Outcome × Session κ :=
  match Settings.load s.workspace r.settingsFile r.given with
  | .error e => (.failed "" "" e, s)
  | .ok settings =>
    let before := s.workspace.log.length
    let (outcome, s) := Migration.run settings p s
    let errors := (Console.configure r.verbose).output (s.workspace.log.drop before)
    let start := startLine r.input settings
    match outcome with
    | .error e => (.failed start errors e, s)
    | .ok results =>
      ({ exit := 0, output := start ++ endLines r.output results, errors }, s)

def chunkLine (index : Nat) (m : ModuleSpec) (key : String) : String :=
  "  #" ++ toString index ++ ": " ++ toString m.endpoints.length ++ " endpoints, " ++
    toString m.dtos.length ++ " DTOs, key " ++ String.ofList (key.toList.take 12) ++ "\n"

/-- A line for each chunk, up to the first that has no key. -/
def chunkLines (index : Nat) : List ModuleSpec → String × Except Failure Unit
  | [] => ("", .ok ())
  | m :: rest =>
    match Cache.keyOf m with
    | .error e => ("", .error e)
    | .ok key =>
      let (lines, outcome) := chunkLines (index + 1) rest
      (chunkLine index m key ++ lines, outcome)

def moduleLine (size : Nat) (m : ModuleSpec) : String :=
  m.moduleName ++ ": " ++ toString m.endpoints.length ++ " endpoints -> " ++
    toString (m.chunks size).length ++ " chunk(s)\n"

/-- What `chunks` says of modules, up to the first chunk that has no key. -/
def moduleLines (size : Nat) : List ModuleSpec → String × Except Failure Unit
  | [] => ("", .ok ())
  | m :: rest =>
    match chunkLines 1 (m.chunks size) with
    | (lines, .error e) => (moduleLine size m ++ lines, .error e)
    | (lines, .ok ()) =>
      let (others, outcome) := moduleLines size rest
      (moduleLine size m ++ lines ++ others, outcome)

/-- Run `chunks`.  No console shows the log. -/
def runChunks (input : Path) (size : Int) (s : Session κ) : Outcome × Session κ :=
  let (records, outcome) := ModuleInput.loadFrom s.workspace input
  let s : Session κ := { s with workspace := s.workspace.recordAll records }
  match outcome with
  | .error e => (.failed "" "" e, s)
  | .ok modules =>
    match moduleLines size.toNat (modules.map ModuleInput.module) with
    | (output, .error e) => (.failed output "" e, s)
    | (output, .ok ()) => ({ exit := 0, output }, s)

def usage : String :=
  "Usage: migrate INPUT_PATH -o OUTPUT [--config FILE] [--max-chunk-size N] [--cache-dir DIR]\n" ++
  "         [--llm | --no-llm] [--model NAME] [-v]\n" ++
  "       chunks INPUT_PATH [--max-chunk-size N]\n"

def run (args : List String) (p : Provider κ) (s : Session κ) : Outcome × Session κ :=
  match Command.ofList s.workspace args with
  | .help => ({ exit := 0, output := usage }, s)
  | .misuse => ({ exit := 2, errors := usage }, s)
  | .migrate r => runMigrate r p s
  | .chunks input size => runChunks input size s

end ServiceMigration.CommandLine
