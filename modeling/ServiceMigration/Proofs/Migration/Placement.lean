import ServiceMigration.Proofs.Migration.Artifacts
/-!
# Where a migration leaves files

Whether it fails or not, a migration changes nothing but files of its cache, artifacts of its
modules, and directories on the way to these that were missing (`Confines`).  The place of the
artifacts follows from the name of the module alone.  They are below the directory for all artifacts
if the name stays inside it (`StaysInside`); but names are not checked, and one that goes up or has
a root of its own leads anywhere (`placement_of_run`).
-/

namespace ServiceMigration.Migration

open Completion Run

/-! ### Places of modules -/

/-- A file that is written for modules of some names, or for the cache. -/
def WritesFor (t : Option Transformer) (output : Path) (names : String → Prop)
    (cwd q : List String) : Prop :=
  CacheReaches t cwd q ∨ ∃ name, names name ∧ IsArtifactPlace cwd (artifactDirectory output name) q

/-- A directory that is made for modules of some names, unless it is there. -/
def MakesFor (output : Path) (names : String → Prop) (cwd q : List String) : Prop :=
  ∃ name, names name ∧ (artifactDirectory output name).OnWay cwd q

/-- All changes of a workspace are those made for modules of some names. -/
structure Confines (t : Option Transformer) (output : Path) (names : String → Prop)
    (w w' : Workspace) : Prop where
  cwd : w'.cwd = w.cwd
  tree : FileTree.Confined (WritesFor t output names w.cwd) (MakesFor output names w.cwd)
    w.tree w'.tree

/-- A name that leads from every directory to one in it, or to itself. -/
def StaysInside (name : String) : Prop :=
  Path.rootOf name = "" ∧ Path.NeverClimbs (Path.namesOf name)

instance (name : String) : Decidable (StaysInside name) := inferInstanceAs (Decidable (_ ∧ _))

/-- The place of the directory for the artifacts of all modules. -/
def rootPlace (cwd : List String) (output : Path) : List String :=
  (output.child artifactRoot).resolve cwd

variable {cwd q : List String} {output directory : Path} {name : String}
  {names names' : String → Prop}
  {w w' w'' : Workspace} {κ : Type} {t : Option Transformer} {p : Provider κ} {size : Int}
  {input : ModuleInput} {s : Session κ}

theorem resolve_artifactDirectory (cwd : List String) (output : Path) (name : String) :
    (artifactDirectory output name).resolve cwd =
      Path.follow (if Path.rootOf name = "" then rootPlace cwd output else [])
        (Path.namesOf name) :=
  Path.resolve_child cwd (output.child artifactRoot) name

theorem StaysInside.prefix_resolve (h : StaysInside name) (cwd : List String) (output : Path) :
    rootPlace cwd output <+: (artifactDirectory output name).resolve cwd := by
  rw [resolve_artifactDirectory, if_pos h.1]
  exact Path.prefix_follow h.2 _

/-- Artifacts are inside exactly if their directory is, be it the one for all artifacts itself. -/
theorem isBelow_artifact {file : String} :
    IsBelow (rootPlace cwd output) (directory.resolve cwd ++ [file]) ↔
    rootPlace cwd output <+: directory.resolve cwd := isBelow_append_singleton

theorem StaysInside.isBelow (h : StaysInside name)
    (hq : IsArtifactPlace cwd (artifactDirectory output name) q) :
      IsBelow (rootPlace cwd output) q := by
  obtain ⟨file, -, rfl⟩ := hq
  exact isBelow_artifact.mpr (h.prefix_resolve cwd output)

/-! ### What is changed -/

namespace Confines

theorem refl (t : Option Transformer) (output : Path) (names : String → Prop) (w : Workspace) :
    Confines t output names w w := ⟨rfl, .refl _ _ _⟩

theorem trans (h : Confines t output names w w') (h' : Confines t output names w' w'') :
    Confines t output names w w'' := by
  have htree := h'.tree
  rw [h.cwd] at htree
  exact ⟨h'.cwd.trans h.cwd, h.tree.trans htree⟩

theorem mono (h : Confines t output names w w') (hsub : ∀ name, names name → names' name) :
    Confines t output names' w w' := by
  refine ⟨h.cwd, h.tree.mono ?_ ?_⟩
  · intro q hq
    refine hq.imp_right ?_
    rintro ⟨name, hname, hplace⟩
    exact ⟨name, hsub name hname, hplace⟩
  · rintro q ⟨name, hname, hplace⟩
    exact ⟨name, hsub name hname, hplace⟩

end Confines

theorem confined_write {t t' : FileTree} {text : String} {directories : List String → Prop}
    (hname : name ∈ artifactNames) (h : t.writeText cwd (directory.child name) text = .ok t') :
    FileTree.Confined (IsArtifactPlace cwd directory) directories t t' := by
  have hchanges := (FileTree.write_spec h).2.2
  rw [resolve_child_artifact _ hname] at hchanges
  exact (hchanges.mono fun q hq => ⟨name, hname, hq⟩).confined

/-- A document that was written changed the place of its file. -/
theorem confined_writeDocument {v : Value} {directories : List String → Prop}
    (hname : name ∈ artifactNames) (h : writeDocument w directory name v = .ok w') :
    w'.cwd = w.cwd ∧ FileTree.Confined (IsArtifactPlace w.cwd directory) directories w.tree
      w'.tree := by
  obtain ⟨_, _, -, hwrite, rfl⟩ := exists_of_writeDocument h
  exact ⟨rfl, confined_write hname hwrite⟩

/-- Artifacts are written into their directory, which is made if it is missing; nothing else is
changed, also where they cannot be written. -/
theorem confined_writeArtifacts (w : Workspace) (directory : Path) (analysis : Analysis)
    (api : ApiSpec) :
    (writeArtifacts w directory analysis api).2.cwd = w.cwd ∧
      FileTree.Confined (IsArtifactPlace w.cwd directory) (directory.OnWay w.cwd) w.tree
        (writeArtifacts w directory analysis api).2.tree := by
  have hmake : FileTree.Confined (IsArtifactPlace w.cwd directory) (directory.OnWay w.cwd) w.tree
      (w.tree.makeDirectories w.cwd directory).1 :=
        FileTree.confined_makeDirectories w.tree w.cwd directory
  unfold writeArtifacts
  split
  · exact ⟨rfl, .refl _ _ _⟩
  · split
    · next tree e h =>
      rw [h] at hmake
      exact ⟨rfl, hmake⟩
    · next tree h =>
      rw [h] at hmake
      split
      · exact ⟨rfl, hmake⟩
      · next w₁ hanalysis =>
        obtain ⟨hcwd₁, hchange₁⟩ := confined_writeDocument (by decide) hanalysis
        have hfirst := hmake.trans hchange₁
        split
        · exact ⟨hcwd₁, hfirst⟩
        · next w₂ hapi =>
          obtain ⟨hcwd₂, hchange₂⟩ := confined_writeDocument (by decide) hapi
          rw [hcwd₁] at hchange₂
          exact ⟨hcwd₂.trans hcwd₁, hfirst.trans hchange₂⟩

theorem confines_migrateModule (t : Option Transformer) (p : Provider κ) (size : Int)
    (output : Path) (input : ModuleInput) (s : Session κ) :
    Confines t output (· = input.module.moduleName) s.workspace
      (migrateModule t p size output input s).2.workspace := by
  obtain ⟨hchanges, hcwd⟩ :=
    changesOnly_transformModule t p size input.module (s.record (moduleRecord input.module))
  have htransform : Confines t output (· = input.module.moduleName) s.workspace
      (transformModule t p size input.module (s.record (moduleRecord input.module))).2.workspace :=
    ⟨hcwd, (hchanges.mono fun q hq => .inl hq).confined⟩
  unfold migrateModule
  split
  · next e s₁ hmodule =>
    rw [hmodule] at htransform
    exact htransform
  · next api stats s₁ hmodule =>
    rw [hmodule] at htransform
    obtain ⟨hcwd₂, htree⟩ := confined_writeArtifacts s₁.workspace
      (artifactDirectory output input.module.moduleName) input.analysis api
    have hwrite : Confines t output (· = input.module.moduleName) s₁.workspace
        (writeArtifacts s₁.workspace (artifactDirectory output input.module.moduleName)
          input.analysis api).2 := by
      refine ⟨hcwd₂, htree.mono ?_ ?_⟩
      · intro q hq
        exact .inr ⟨_, rfl, hq⟩
      · intro q hq
        exact ⟨_, rfl, hq⟩
    dsimp only
    split
    · next e w₂ h =>
      rw [h] at hwrite
      exact htransform.trans hwrite
    · next w₂ h =>
      rw [h] at hwrite
      exact htransform.trans hwrite

/-- The modules before one that fails were migrated, so this is an induction on all of them. -/
theorem confines_migrateAll (t : Option Transformer) (p : Provider κ) (size : Int) (output : Path)
    (inputs : List ModuleInput) (s : Session κ) :
    Confines t output (fun name => ∃ m ∈ inputs, m.module.moduleName = name) s.workspace
      (migrateAll t p size output inputs s).2.workspace := by
  induction inputs generalizing s with
  | nil => exact .refl _ _ _ _
  | cons input rest ih =>
    have hfirst : Confines t output (fun name => ∃ m ∈ input :: rest, m.module.moduleName =
        name) s.workspace
          (migrateModule t p size output input s).2.workspace := by
      refine (confines_migrateModule t p size output input s).mono ?_
      rintro name rfl
      exact ⟨input, List.mem_cons_self, rfl⟩
    rw [migrateAll]
    split
    · next e s₁ h =>
      rw [h] at hfirst
      exact hfirst
    · next r s₁ h =>
      rw [h] at hfirst
      refine hfirst.trans ((ih s₁).mono ?_)
      rintro name ⟨m, hm, hname⟩
      exact ⟨m, List.mem_cons_of_mem _ hm, hname⟩

/-- The name of one of the modules of an input, if there is one. -/
def NamesModule (w : Workspace) (input : Option Path) (name : String) : Prop :=
  ∃ path ∈ input, ∃ modules, (ModuleInput.loadFrom w path).2 = .ok modules ∧
    ∃ m ∈ modules, m.module.moduleName = name

theorem confines_migrateFrom (t : Option Transformer) (p : Provider κ) (size : Int)
    (path output : Path) (s : Session κ) :
    Confines t output (NamesModule s.workspace (some path)) s.workspace
      (migrateFrom t p size path output s).2.workspace := by
  unfold migrateFrom
  rcases hload : ModuleInput.loadFrom s.workspace path with ⟨records, outcome⟩
  dsimp only
  split
  · exact ⟨rfl, .refl _ _ _⟩
  · exact ⟨rfl, .refl _ _ _⟩
  · next modules _ =>
    have hall := confines_migrateAll t p size output modules
      (({ s with workspace := s.workspace.recordAll records } : Session κ).record
        (detectedRecord modules.length))
    have hnamed := hall.mono fun name hname =>
      (⟨path, rfl, modules, by rw [hload], hname⟩ : NamesModule s.workspace (some path) name)
    exact ⟨hnamed.cwd, hnamed.tree⟩

/-- A change is one of those that are confined. -/
theorem Confines.cases_of_ne (h : Confines t output names w w')
    (hq : w'.tree.get? q ≠ w.tree.get? q) :
    CacheReaches t w.cwd q ∨ ∃ name, names name ∧
      (IsArtifactPlace w.cwd (artifactDirectory output name) q ∨
        (artifactDirectory output name).OnWay w.cwd q ∧ w.tree.get? q = none ∧
          w'.tree.get? q = some .directory) := by
  by_cases hfile : WritesFor t output names w.cwd q
  · refine hfile.imp_right ?_
    rintro ⟨name, hname, hplace⟩
    exact ⟨name, hname, .inl hplace⟩
  · obtain ⟨⟨name, hname, hway⟩, hnone, hmade⟩ := (h.tree q hfile).resolve_left hq
    exact .inr ⟨name, hname, .inr ⟨hway, hnone, hmade⟩⟩

/-! ### Runs -/

variable {settings : Settings}

theorem CacheReaches.touchesIn (h : CacheReaches (openTransformer settings w).1 cwd q) :
    settings.usesModel = true ∧ Cache.TouchesIn (settings.cacheDirectory.resolve cwd) q := by
  obtain ⟨t, ht, -, d, hd, htouches⟩ := h
  rcases openTransformer_cases settings w with ⟨-, hopen⟩ | ⟨husesModel, t', hcache, hopen⟩
  · rw [hopen] at ht
    exact absurd ht (Option.not_mem_none t)
  · rw [hopen] at ht
    obtain rfl : t' = t := Option.some.inj ht
    rw [hcache, Cache.directory_openAt] at hd
    obtain rfl := Option.some.inj hd
    exact ⟨husesModel, htouches⟩

/-- Every module that was migrated has artifacts in its directory, be they its own or those of a
later module. -/
theorem LeavesArtifacts.exists_file {entries : List (ModuleInput × ModuleResult)}
    {e : ModuleInput × ModuleResult}
    {file : String} (h : LeavesArtifacts cwd w' output entries) (hcwd : w'.cwd = cwd)
    (he : e ∈ entries) (hfile : file ∈ artifactNames) :
    ∃ content, w'.tree.get? (e.2.directory.resolve cwd ++ [file]) = some (.file content) := by
  obtain ⟨e', -, hshares, hlast⟩ := exists_holds h.last he
  have hnames : (artifacts e').map Prod.fst = artifactNames := rfl
  obtain ⟨a, ha, rfl⟩ := List.mem_map.mp (hnames ▸ hfile)
  obtain ⟨text, -, hread⟩ := hlast a ha
  obtain ⟨-, hget⟩ := FileTree.read_eq_ok_iff_get?.mp hread
  rw [resolve_child_artifact _ hfile, hcwd, hshares] at hget
  exact ⟨_, hget⟩

theorem confines_run (houtput : settings.output = some output) (p : Provider κ) (s : Session κ) :
    Confines (openTransformer settings s.workspace).1 output
      (NamesModule (openTransformer settings s.workspace).2 settings.input)
      (openTransformer settings s.workspace).2 (run settings p s).2.workspace := by
  cases hinput : settings.input with
  | none =>
    rw [run]
    simp only [hinput]
    exact .refl _ _ _ _
  | some path =>
    rw [run_eq_migrateFrom hinput houtput]
    exact confines_migrateFrom _ p _ path output
      { s with workspace := (openTransformer settings s.workspace).2 }

/-- What a run returns for a module says where its artifacts are. -/
theorem exists_file_of_run (houtput : settings.output = some output) {p : Provider κ}
    {s' : Session κ}
    {results : List ModuleResult} (h : run settings p s = (.ok results, s')) {r : ModuleResult}
    (hr : r ∈ results) :
    r.directory = artifactDirectory output r.moduleName ∧ ∀ file ∈ artifactNames,
      ∃ content, s'.workspace.tree.get? (r.directory.resolve s.workspace.cwd ++ [file]) =
        some (.file content) := by
  have hcwd : s'.workspace.cwd = s.workspace.cwd := by
    have hconfines := confines_run houtput p s
    rw [h] at hconfines
    exact hconfines.cwd.trans (cwd_openTransformer settings s.workspace)
  cases hinput : settings.input with
  | none =>
    rw [run] at h
    simp only [hinput] at h
    cases (Prod.mk.inj h).1
  | some path =>
    rw [run_eq_migrateFrom hinput houtput] at h
    obtain ⟨modules, -, hlength, hleaves⟩ := artifacts_of_migrateFrom h
    dsimp only at hleaves
    rw [cwd_openTransformer] at hleaves
    have hsnd : (modules.zip results).map Prod.snd = results := List.map_snd_zip hlength.le
    obtain ⟨e, he, rfl⟩ := List.mem_map.mp (hsnd ▸ hr)
    exact ⟨(hleaves.names e he).2, fun file hfile => hleaves.exists_file hcwd he hfile⟩

/-- Whatever a run changes, whether it fails or not, is a file in the directory of the cache, an
artifact of a module of its input, or a directory on the way to one, where nothing was.  For a
module whose name stays inside, artifacts are below the directory for all artifacts, and directories
are below it or on the way to it.  What a run returns for a module has its artifacts where the name
leads, from the directory for all artifacts or, for a name with a root, from the top; so they are
below that directory exactly if the name leads there. -/
theorem placement_of_run (houtput : settings.output = some output) (p : Provider κ)
    (s : Session κ) :
    (∀ q, (run settings p s).2.workspace.tree.get? q ≠
      (openTransformer settings s.workspace).2.tree.get? q →
      (settings.usesModel = true ∧
        Cache.TouchesIn (settings.cacheDirectory.resolve s.workspace.cwd) q) ∨
      ∃ name, NamesModule (openTransformer settings s.workspace).2 settings.input name ∧
        (IsArtifactPlace s.workspace.cwd (artifactDirectory output name) q ∧
            (StaysInside name → IsBelow (rootPlace s.workspace.cwd output) q) ∨
          (artifactDirectory output name).OnWay s.workspace.cwd q ∧
            (openTransformer settings s.workspace).2.tree.get? q = none ∧
            (run settings p s).2.workspace.tree.get? q = some .directory ∧
            (StaysInside name → (output.child artifactRoot).OnWay s.workspace.cwd q ∨
              IsBelow (rootPlace s.workspace.cwd output) q))) ∧
    ∀ results s', run settings p s = (.ok results, s') → ∀ r ∈ results,
      r.directory = artifactDirectory output r.moduleName ∧ ∀ file ∈ artifactNames,
        (∃ content, s'.workspace.tree.get? (r.directory.resolve s.workspace.cwd ++ [file]) =
          some (.file content)) ∧
        (IsBelow (rootPlace s.workspace.cwd output)
          (r.directory.resolve s.workspace.cwd ++ [file]) ↔
          rootPlace s.workspace.cwd output <+:
            Path.follow (if Path.rootOf r.moduleName =
              "" then rootPlace s.workspace.cwd output else [])
              (Path.namesOf r.moduleName)) := by
  constructor
  · intro q hq
    have hcases := (confines_run houtput p s).cases_of_ne hq
    rw [cwd_openTransformer] at hcases
    rcases hcases with hcache | ⟨name, hname, hartifact | ⟨hway, hnone, hmade⟩⟩
    · exact .inl hcache.touchesIn
    · exact .inr ⟨name, hname, .inl ⟨hartifact, fun hinside => hinside.isBelow hartifact⟩⟩
    · refine .inr ⟨name, hname, .inr ⟨hway, hnone, hmade, fun hinside => ?_⟩⟩
      exact hway.of_child hinside.1 hinside.2
  · intro results s' h r hr
    obtain ⟨hdirectory, hfiles⟩ := exists_file_of_run houtput h hr
    refine ⟨hdirectory, fun file hfile => ⟨hfiles file hfile, ?_⟩⟩
    rw [isBelow_artifact, hdirectory, resolve_artifactDirectory]

theorem placement_of_run_core :
    coreSettings.output = some coreOutput ∧ StaysInside "core" ∧
      ∃ results s', run coreSettings unreachable ⟨coreWorkspace, ()⟩ = (.ok results, s') ∧
      results ≠ [] ∧
        ∀ r ∈ results, r.moduleName = "core" ∧ ∀ file ∈ artifactNames,
          (∃ content, s'.workspace.tree.get? (r.directory.resolve [] ++ [file]) =
            some (.file content)) ∧
          IsBelow (rootPlace [] coreOutput) (r.directory.resolve [] ++ [file]) := by
  have hinside : StaysInside "core" := by decide
  obtain ⟨results, s', hrun⟩ := exists_coreRun
  have hsettings : run coreSettings unreachable ⟨coreWorkspace, ()⟩ = (.ok results, s') := hrun
  have hload : (ModuleInput.loadFrom coreWorkspace coreInput).2 =
      .ok [coreModule "Order", coreModule "Buyer"] := by
    rw [loadFrom_coreWorkspace]
  obtain ⟨modules, hmodules, hlength, hleaves⟩ := artifacts_of_migrateFrom hrun
  obtain rfl : modules = [coreModule "Order", coreModule "Buyer"] :=
    Except.ok.inj (hmodules.symm.trans hload)
  refine ⟨rfl, hinside, results, s', hsettings, ?_, fun r hr => ?_⟩
  · rintro rfl
    exact absurd hlength nofun
  · have hsnd : ([coreModule "Order", coreModule "Buyer"].zip results).map Prod.snd = results :=
      List.map_snd_zip hlength.le
    obtain ⟨e, he, rfl⟩ := List.mem_map.mp (hsnd ▸ hr)
    have hname : e.2.moduleName = "core" := by
      rw [(hleaves.names e he).1]
      rcases List.mem_cons.mp (List.of_mem_zip he).1 with hfirst | hsecond
      · rw [hfirst]
        rfl
      · rw [List.mem_singleton.mp hsecond]
        rfl
    refine ⟨hname, fun file hfile => ?_⟩
    obtain ⟨-, hplaced⟩ :=
      (placement_of_run rfl unreachable ⟨coreWorkspace, ()⟩).2 results s' hsettings e.2 hr
    obtain ⟨hexists, hbelow⟩ := hplaced file hfile
    refine ⟨hexists, hbelow.mpr ?_⟩
    rw [hname, if_pos hinside.1]
    exact Path.prefix_follow hinside.2 _

/-! ### A name that leads out -/

/-- A file with a module whose name goes up twice. -/
def billingWorkspace : Workspace where
  tree := { entries := [
    (["in"], .directory),
    (["in", "a.json"], .file (encodeText "\x7b\"moduleName\": \"../../billing\"\x7d"))] }

def billingModule : ModuleInput where
  analysis := {}
  module :=
    { projectName := "in"
      moduleName := "../../billing"
      metadata := [("root", "/in"), ("module", "../../billing")] }

theorem loadFrom_billingWorkspace :
    ModuleInput.loadFrom billingWorkspace coreInput = ([], .ok [billingModule]) := by
  have hlocate : billingWorkspace.tree.locate billingWorkspace.cwd coreInput = .ok ["in"] := by
    decide +kernel
  have hfiles : ModuleInput.filesIn billingWorkspace coreInput =
      [{ parts := ["in", "a.json"] }] := by
    rw [ModuleInput.filesIn_of_pairwise hlocate (by decide +kernel)]
    decide +kernel
  have hdirectory : billingWorkspace.tree.isDirectory billingWorkspace.cwd coreInput = true := by
    decide +kernel
  have hload : ModuleInput.loadAll billingWorkspace [{ parts := ["in", "a.json"] }] =
    ([], .ok [billingModule]) := by
    decide +kernel
  rw [ModuleInput.loadFrom_of_isDirectory hdirectory, hfiles, hload]

/-- The artifacts of this module are written next to the output directory. -/
theorem billing_leaves_output :
    ¬∀ q, (run coreSettings unreachable ⟨billingWorkspace, ()⟩).2.workspace.tree.get? q ≠
        billingWorkspace.tree.get? q →
      (coreOutput.child artifactRoot).OnWay [] q ∨ IsBelow (rootPlace [] coreOutput) q := by
  intro hall
  have hrun : run coreSettings unreachable ⟨billingWorkspace, ()⟩ =
      migrateAll none unreachable 10 coreOutput
        [billingModule] ⟨(billingWorkspace.recordAll []).record (detectedRecord 1), ()⟩ := by
    have hsettings : run coreSettings unreachable ⟨billingWorkspace, ()⟩ =
        migrateFrom none unreachable 10 coreInput coreOutput ⟨billingWorkspace, ()⟩ := rfl
    rw [hsettings, migrateFrom, loadFrom_billingWorkspace]
    rfl
  have hafter : ((run coreSettings unreachable ⟨billingWorkspace, ()⟩).2.workspace.tree.get?
      ["billing", "analysis.json"]).isSome = true := by
    rw [hrun]
    decide +kernel
  have hbefore : (billingWorkspace.tree.get? ["billing", "analysis.json"]).isSome = false := by
    decide +kernel
  have hchanged : (run coreSettings unreachable ⟨billingWorkspace, ()⟩).2.workspace.tree.get?
      ["billing", "analysis.json"] ≠ billingWorkspace.tree.get? ["billing", "analysis.json"] := by
    intro heq
    rw [heq, hbefore] at hafter
    exact Bool.false_ne_true hafter
  rcases hall _ hchanged with ⟨parts, hparts, hplace⟩ | ⟨hbelow, -⟩
  · have hways : ∀ parts ∈ (coreOutput.child artifactRoot).parts.inits,
        ["billing", "analysis.json"] ≠
          ({ coreOutput.child artifactRoot with parts } : Path).resolve [] := by
      decide
    exact hways parts ((List.mem_inits _ _).mpr hparts) hplace
  · exact absurd hbelow (by decide)

end ServiceMigration.Migration
