import ServiceMigration.ModuleInput
import ServiceMigration.Run.Transformer
import ServiceMigration.Settings
/-!
# Migrations

All modules of the input are read before anything else is done, then each of them is transformed, by
a language model or by the rules, and what was discovered and what was made of it are written below
the output directory.
-/

namespace ServiceMigration

structure ModuleResult where
  moduleName : String
  api : ApiSpec
  directory : Path
  /-- The counters of the run, where a language model was asked. -/
  stats : Option Run.Stats

namespace Migration

open Completion Run

/-- The directory below the output directory that holds the artifacts of all modules. -/
def artifactRoot : String := ".migrator"

def artifactDirectory (output : Path) (moduleName : String) : Path :=
  (output.child artifactRoot).child moduleName

/-- Write a document into a file of a directory.  The file is only opened when there is a text for
it. -/
def writeDocument (w : Workspace) (directory : Path) (name : String) (v : Value) :
    Except Failure Workspace :=
  match Json.render v with
  | none => .error (.badValue .tooLongToWrite)
  | some text =>
    match w.tree.writeText w.cwd (directory.child name) text with
    | .error e => .error (.artifacts directory e)
    | .ok tree => .ok { w with tree }

def writeArtifacts (w : Workspace) (directory : Path) (analysis : Analysis) (api : ApiSpec) :
    Except Failure Unit × Workspace :=
  if directory.parts.any fun name => name.toList.contains '\x00' then
    (.error (.badValue .nullInName), w)
  else
    match w.tree.makeDirectories w.cwd directory with
    | (tree, some e) => (.error (.artifacts directory e), { w with tree })
    | (tree, none) =>
      match writeDocument { w with tree } directory "analysis.json" analysis.toValue with
      | .error e => (.error e, { w with tree })
      | .ok w =>
        match writeDocument w directory "fastapi-spec.json" api.toValue with
        | .error e => (.error e, w)
        | .ok w => (.ok (), w)

def moduleRecord (m : ModuleSpec) : Record :=
  ⟨.info, "Transforming module " ++ m.moduleName ++ " (" ++ toString m.endpoints.length ++
    " endpoints, " ++ toString m.dtos.length ++ " DTOs)"⟩

/-- The generated API of a module, with the counters where a language model was asked. -/
def transformModule (t : Option Transformer) (p : Provider κ) (size : Int) (m : ModuleSpec)
    (s : Session κ) : Except Failure (ApiSpec × Option Stats) × Session κ :=
  match t with
  | none => (.ok (Mapping.api m, none), s)
  | some t =>
    let outcome := t.run p m size none s
    (outcome.result.map fun api => (api, some outcome.progress.stats), outcome.progress.state)

def migrateModule (t : Option Transformer) (p : Provider κ) (size : Int) (output : Path)
    (input : ModuleInput) (s : Session κ) : Except Failure ModuleResult × Session κ :=
  match transformModule t p size input.module (s.record (moduleRecord input.module)) with
  | (.error e, s) => (.error e, s)
  | (.ok (api, stats), s) =>
    let moduleName := input.module.moduleName
    let directory := artifactDirectory output moduleName
    match writeArtifacts s.workspace directory input.analysis api with
    | (.error e, workspace) => (.error e, { s with workspace })
    | (.ok (), workspace) => (.ok ⟨moduleName, api, directory, stats⟩, { s with workspace })

/-- Migrate modules one after the other, up to the first that fails. -/
def migrateAll (t : Option Transformer) (p : Provider κ) (size : Int) (output : Path) :
    List ModuleInput → Session κ → Except Failure (List ModuleResult) × Session κ
  | [], s => (.ok [], s)
  | input :: rest, s =>
    match migrateModule t p size output input s with
    | (.error e, s) => (.error e, s)
    | (.ok r, s) =>
      let (outcome, s) := migrateAll t p size output rest s
      (outcome.map (r :: ·), s)

/-- What the settings say to work with.  The cache is opened when a language model is to be
asked. -/
def openTransformer (settings : Settings) (w : Workspace) : Option Transformer × Workspace :=
  if settings.usesModel then
    let (cache, w) := Cache.openAt (some settings.cacheDirectory) w
    let client := Client.make settings.model (w.environmentValue? modelVariable)
      (settings.timeout.map .real)
    let prompts := match settings.promptsDirectory with
      | none => Prompts.packaged
      | some d => .directory d
    (some { cache, generator := { client, prompts } }, w)
  else (none, w)

/-- What is written down when the modules have been read. -/
def detectedRecord (count : Nat) : Record :=
  ⟨.info, "Detected " ++ toString count ++ " module(s)"⟩

/-- What is written down when there are no modules. -/
def nothingRecord (input : Path) : Record :=
  ⟨.warning, "No modules detected under " ++ input.toText⟩

/-- Read all modules of the input, and migrate them. -/
def migrateFrom (t : Option Transformer) (p : Provider κ) (size : Int) (input output : Path)
    (s : Session κ) : Except Failure (List ModuleResult) × Session κ :=
  let (records, outcome) := ModuleInput.loadFrom s.workspace input
  let s : Session κ := { s with workspace := s.workspace.recordAll records }
  match outcome with
  | .error e => (.error e, s)
  | .ok [] => (.ok [], s.record (nothingRecord input))
  | .ok modules => migrateAll t p size output modules (s.record (detectedRecord modules.length))

def run (settings : Settings) (p : Provider κ) (s : Session κ) :
    Except Failure (List ModuleResult) × Session κ :=
  let (t, workspace) := openTransformer settings s.workspace
  let s : Session κ := { s with workspace }
  match settings.input, settings.output with
  | some input, some output => migrateFrom t p settings.maxChunkSize input output s
  | _, _ => (.error (.input .notConfigured), s)

end Migration

end ServiceMigration
