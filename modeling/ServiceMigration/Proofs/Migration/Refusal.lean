import ServiceMigration.Completion.Script
import ServiceMigration.Migration
import ServiceMigration.Proofs.Cache.Footprint
import ServiceMigration.Proofs.Files.Confinement
/-!
# Input that is refused

All modules are read before the first of them is transformed.  So the first analysis file of a
directory that cannot be loaded ends the run while nothing was done yet: no completion was asked
for, and no place of the files was changed (`refused_input_changes_nothing`).  Only the directory of
the cache may have been made, when the cache was opened (`confined_openTransformer`).
-/

namespace ServiceMigration

/-! ### The first file that cannot be loaded -/

namespace ModuleInput

variable {w : Workspace} {files before : List Path} {path bad input : Path} {e : Failure}

/-- One of several files cannot be loaded, and those before it can. -/
structure Refuses (w : Workspace) (files before : List Path) (bad : Path) (e : Failure) : Prop where
  files : ∃ after, files = before ++ bad :: after
  loaded : ∀ path ∈ before, ∃ m, (load w path).2 = .ok m
  failed : (load w bad).2 = .error e

/-- Of the files that cannot be loaded, one is the first. -/
theorem exists_refuses (hpath : path ∈ files) (hload : (load w path).2 = .error e) :
    ∃ before bad e', Refuses w files before bad e' := by
  have hsome : (files.find? fun path => !(load w path).2.isOk).isSome := by
    rw [List.find?_isSome]
    exact ⟨path, hpath, by rw [hload]; rfl⟩
  obtain ⟨bad, hbad⟩ := Option.isSome_iff_exists.mp hsome
  obtain ⟨hfailed, before, after, hfiles, hloaded⟩ := List.find?_eq_some_iff_append.mp hbad
  cases hload' : (load w bad).2 with
  | ok m =>
    rw [hload'] at hfailed
    exact absurd hfailed nofun
  | error e' =>
    refine ⟨before, bad, e', ⟨after, hfiles⟩, fun q hq => ?_, hload'⟩
    have hok := hloaded q hq
    cases hq' : (load w q).2 with
    | ok m => exact ⟨m, rfl⟩
    | error e'' =>
      rw [hq'] at hok
      exact absurd hok nofun

/-- Loading ends with the first file that cannot be loaded. -/
theorem loadAll_of_refuses (h : Refuses w files before bad e) :
    loadAll w files = ((before ++ [bad]).flatMap fun path => (load w path).1, .error e) := by
  obtain ⟨⟨after, rfl⟩, hloaded, hfailed⟩ := h
  induction before with
  | nil =>
    rcases hload : load w bad with ⟨records, outcome⟩
    rw [hload] at hfailed
    obtain rfl : outcome = .error e := hfailed
    rw [List.nil_append, loadAll, hload]
    simp [hload]
  | cons first rest ih =>
    obtain ⟨hfirst, hrest⟩ := List.forall_mem_cons.mp hloaded
    obtain ⟨m, hm⟩ := hfirst
    rcases hload : load w first with ⟨records, outcome⟩
    rw [hload] at hm
    obtain rfl : outcome = .ok m := hm
    rw [List.cons_append, loadAll, hload, ih hrest, List.cons_append, List.flatMap_cons, hload]
    rfl

theorem loadFrom_of_isDirectory (h : w.tree.isDirectory w.cwd input = true) :
    loadFrom w input = loadAll w (filesIn w input) := by
  have hfile : w.tree.isFile w.cwd input = false := by
    unfold FileTree.isDirectory at h
    unfold FileTree.isFile
    split at h
    · next hat => rw [hat]
    · exact absurd h nofun
  rw [loadFrom, hfile, h, if_neg Bool.false_ne_true, if_pos rfl]

/-- Names that are in order already are listed as they are. -/
theorem filesIn_of_pairwise {place : List String} (hlocate : w.tree.locate w.cwd input = .ok place)
    (hsorted : (w.tree.namesIn place).Pairwise fun a b => !decide (b < a)) :
    filesIn w input = ((w.tree.namesIn place).map input.child).filter
      fun p => suffixes.contains p.suffix && w.tree.isFile w.cwd p := by
  rw [filesIn, hlocate]
  dsimp only
  rw [List.mergeSort_of_pairwise hsorted]

end ModuleInput

namespace Migration

open Completion Run

variable {κ : Type} {settings : Settings} {input output path : Path} {e : Failure} {w : Workspace}
  {t : Transformer}

/-! ### Opening -/

/-- Nothing is opened unless a model is to be asked; then it is the cache of the settings. -/
theorem openTransformer_cases (settings : Settings) (w : Workspace) :
    settings.usesModel = false ∧ openTransformer settings w = (none, w) ∨
      settings.usesModel = true ∧ ∃ t : Transformer,
        t.cache = (Cache.openAt (some settings.cacheDirectory) w).1 ∧
          openTransformer settings w =
            (some t, (Cache.openAt (some settings.cacheDirectory) w).2) := by
  cases husesModel : settings.usesModel with
  | false => exact .inl ⟨rfl, by simp [openTransformer, husesModel]⟩
  | true =>
    refine .inr ⟨rfl, ?_⟩
    rw [openTransformer, if_pos husesModel]
    exact ⟨_, rfl, rfl⟩

theorem cwd_openTransformer (settings : Settings) (w : Workspace) :
    (openTransformer settings w).2.cwd = w.cwd := by
  rcases openTransformer_cases settings w with ⟨-, hopen⟩ | ⟨-, t, -, hopen⟩
  · rw [hopen]
  · rw [hopen]
    exact (Cache.snd_openAt settings.cacheDirectory w).1

/-- To open makes directories on the way to that of the cache, and does nothing else to the
files. -/
theorem confined_openTransformer (settings : Settings) (w : Workspace) :
    FileTree.Confined (fun _ => False)
      (fun q => settings.usesModel = true ∧ settings.cacheDirectory.OnWay w.cwd q)
      w.tree (openTransformer settings w).2.tree := by
  rcases openTransformer_cases settings w with ⟨-, hopen⟩ | ⟨husesModel, t, -, hopen⟩
  · rw [hopen]
    exact .refl _ _ _
  · rw [hopen, (Cache.snd_openAt settings.cacheDirectory w).2]
    refine (FileTree.confined_makeDirectories w.tree w.cwd settings.cacheDirectory).mono
      (fun q hq => hq) ?_
    intro q hq
    exact ⟨husesModel, hq⟩

theorem run_eq_migrateFrom (hinput : settings.input = some input)
    (houtput : settings.output = some output) (p : Provider κ) (s : Session κ) :
    run settings p s = migrateFrom (openTransformer settings s.workspace).1 p
      settings.maxChunkSize input output
      { s with workspace := (openTransformer settings s.workspace).2 } := by
  rw [run]
  simp only [hinput, houtput]

/-! ### Refusing -/

/-- With any transformer, the failure of the first file that cannot be loaded is all that comes of
the migration. -/
theorem migrateFrom_of_refuses {before : List Path} {bad : Path} (t : Option Transformer)
    (p : Provider κ) (size : Int) (output : Path) (s : Session κ)
    (hdirectory : s.workspace.tree.isDirectory s.workspace.cwd input = true)
    (h : ModuleInput.Refuses s.workspace (ModuleInput.filesIn s.workspace input) before bad e) :
    migrateFrom t p size input output s = (.error e, { s with
      workspace := s.workspace.recordAll
        ((before ++ [bad]).flatMap fun path => (ModuleInput.load s.workspace path).1) }) := by
  rw [migrateFrom, ModuleInput.loadFrom_of_isDirectory hdirectory, ModuleInput.loadAll_of_refuses h]

/-- When a file of the input directory cannot be loaded, the run fails as the first such file does.
The provider is as it was before, and so is the workspace that was opened, but for what loading
writes down; and to open it made directories on the way to that of the cache, if anything. -/
theorem refused_input_changes_nothing (hinput : settings.input = some input)
    (houtput : settings.output = some output)
    (p : Provider κ) (s : Session κ) (hopened : (openTransformer settings s.workspace).2 = w)
    (hdirectory : w.tree.isDirectory w.cwd input = true)
    (hpath : path ∈ ModuleInput.filesIn w input) (hload : (ModuleInput.load w path).2 = .error e) :
    ∃ before bad failure, ModuleInput.Refuses w (ModuleInput.filesIn w input) before bad failure ∧
      run settings p s = (.error failure, { s with
        workspace :=
          w.recordAll ((before ++ [bad]).flatMap fun path => (ModuleInput.load w path).1) }) ∧
      FileTree.Confined (fun _ => False)
        (fun q => settings.usesModel = true ∧ settings.cacheDirectory.OnWay s.workspace.cwd q)
        s.workspace.tree w.tree := by
  obtain ⟨before, bad, failure, hrefuses⟩ := ModuleInput.exists_refuses hpath hload
  refine ⟨before, bad, failure, hrefuses, ?_, ?_⟩
  · rw [run_eq_migrateFrom hinput houtput, hopened]
    exact migrateFrom_of_refuses _ p _ output { s with workspace := w } hdirectory hrefuses
  · rw [← hopened]
    exact confined_openTransformer settings s.workspace

/-- A directory with a file that can be loaded, and behind it one that holds no mapping. -/
def mixedWorkspace : Workspace where
  tree := { entries := [
    (["in"], .directory),
    (["in", "a.json"], .file (encodeText "\x7b\x7d")),
    (["in", "b.json"], .file (encodeText "[]"))] }

def mixedSettings : Settings where
  input := some { parts := ["in"] }
  output := some { parts := ["out"] }

/-- The workspace with the directory of the cache. -/
def mixedOpened : Workspace := (openTransformer mixedSettings mixedWorkspace).2

theorem filesIn_mixedOpened : ModuleInput.filesIn mixedOpened { parts := ["in"] } =
    [{ parts := ["in", "a.json"] }, { parts := ["in", "b.json"] }] := by
  have hlocate : mixedOpened.tree.locate mixedOpened.cwd { parts := ["in"] } = .ok ["in"] := by
    decide +kernel
  rw [ModuleInput.filesIn_of_pairwise hlocate (by decide +kernel)]
  decide +kernel

theorem refused_input_changes_nothing_mixed :
    (ModuleInput.load mixedOpened { parts := ["in", "a.json"] }).2.isOk = true ∧
    ∃ before bad failure, ModuleInput.Refuses mixedOpened
        [{ parts := ["in", "a.json"] }, { parts := ["in", "b.json"] }] before bad failure ∧
      run mixedSettings (scripted []) ⟨mixedWorkspace, []⟩ = (.error failure,
        { workspace := mixedOpened.recordAll
            ((before ++ [bad]).flatMap fun path => (ModuleInput.load mixedOpened path).1)
          provider := [] }) := by
  have hinput : mixedSettings.input = some { parts := ["in"] } := rfl
  have houtput : mixedSettings.output = some { parts := ["out"] } := rfl
  have hopened : (openTransformer mixedSettings mixedWorkspace).2 = mixedOpened := rfl
  have hdirectory : mixedOpened.tree.isDirectory mixedOpened.cwd { parts := ["in"] } = true := by
    decide +kernel
  have hpath : { parts := ["in", "b.json"] } ∈ ModuleInput.filesIn mixedOpened
    { parts := ["in"] } := by
    rw [filesIn_mixedOpened]
    exact List.mem_cons_of_mem _ List.mem_cons_self
  have hload : (ModuleInput.load mixedOpened { parts := ["in", "b.json"] }).2 =
      .error (.input (.notMapping { parts := ["in", "b.json"] })) := by decide +kernel
  obtain ⟨before, bad, failure, hrefuses, hrun, -⟩ :=
    refused_input_changes_nothing hinput houtput (scripted [])
    ⟨mixedWorkspace, []⟩ hopened hdirectory hpath hload
  rw [filesIn_mixedOpened] at hrefuses
  exact ⟨by decide +kernel, before, bad, failure, hrefuses, hrun⟩

end Migration

end ServiceMigration
