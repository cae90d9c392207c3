import ServiceMigration.Proofs.Migration.Refusal
import ServiceMigration.Proofs.Run.Storage
/-!
# Which artifacts are there after a migration

The artifacts of a module are written once, into the directory that its name gives, and nothing that
comes later touches them but a module with the same directory (`Migrated`).  So the last module of
each directory keeps its artifacts, and all modules do exactly if those of one directory have the
same ones (`artifacts_of_run`).
-/

namespace ServiceMigration.Migration

open Completion Run

/-! ### Places of artifacts -/

/-- The files that are written about a module, with their texts if they can be written. -/
def artifacts (e : ModuleInput × ModuleResult) : List (String × Option String) := [
  ("analysis.json", Json.render e.1.analysis.toValue),
  ("fastapi-spec.json", e.2.api.prettyText)]

/-- The artifacts of a module are in the directory of its result. -/
def Holds (w : Workspace) (e : ModuleInput × ModuleResult) : Prop :=
  ∀ a ∈ artifacts e, ∃ text, a.2 = some text ∧
    w.tree.read w.cwd (e.2.directory.child a.1) = .ok (encodeText text)

/-- Two modules are written into one directory. -/
def SharesDirectory (cwd : List String) (e e' : ModuleInput × ModuleResult) : Prop :=
  e.2.directory.resolve cwd = e'.2.directory.resolve cwd

/-- The names of the files. -/
def artifactNames : List String := ["analysis.json", "fastapi-spec.json"]

/-- A place where a module with this directory has an artifact. -/
def IsArtifactPlace (cwd : List String) (directory : Path) (q : List String) : Prop :=
  ∃ name ∈ artifactNames, q = directory.resolve cwd ++ [name]

variable {cwd : List String} {directory directory' : Path} {name : String} {w w' : Workspace}
  {e e' : ModuleInput × ModuleResult}

theorem fst_mem_artifactNames {a : String × Option String} (h : a ∈ artifacts e) :
    a.1 ∈ artifactNames := by
  have hnames : (artifacts e).map Prod.fst = artifactNames := rfl
  exact hnames ▸ List.mem_map_of_mem h

theorem holds_iff : Holds w e ↔
    (∃ text, Json.render e.1.analysis.toValue = some text ∧
      w.tree.read w.cwd (e.2.directory.child "analysis.json") = .ok (encodeText text)) ∧
    ∃ text, e.2.api.prettyText = some text ∧
      w.tree.read w.cwd (e.2.directory.child "fastapi-spec.json") = .ok (encodeText text) := by
  simp only [Holds, artifacts, List.forall_mem_cons, List.not_mem_nil, false_implies, implies_true,
    and_true]

theorem child_artifact (directory : Path) (h : name ∈ artifactNames) :
    directory.child name = { directory with parts := directory.parts ++ [name] } := by
  have hname : Path.ofString name = { parts := [name] } := by
    simp only [artifactNames, List.mem_cons, List.not_mem_nil, or_false] at h
    rcases h with rfl | rfl <;> decide
  rw [Path.child, hname]
  rfl

theorem resolve_child_artifact (directory : Path) (h : name ∈ artifactNames) :
    (directory.child name).resolve cwd = directory.resolve cwd ++ [name] := by
  have hup : (name == "..") = false := by
    simp only [artifactNames, List.mem_cons, List.not_mem_nil, or_false] at h
    rcases h with rfl | rfl <;> decide
  rw [child_artifact directory h, Path.resolve_append, Path.follow, hup]
  rfl

theorem not_touches_artifact {place : List String} (h : name ∈ artifactNames) :
    ¬Cache.Touches (place ++ [name]) := by
  simp only [artifactNames, List.mem_cons, List.not_mem_nil, or_false] at h
  rcases h with rfl | rfl
  · exact Cache.not_touches (by decide) (by decide)
  · exact Cache.not_touches (by decide) (by decide)

theorem resolve_eq_of_isArtifactPlace {place : List String} {name : String}
    (h : IsArtifactPlace cwd directory (place ++ [name])) : place = directory.resolve cwd := by
  obtain ⟨name', -, hplace⟩ := h
  exact (List.append_inj' hplace rfl).1

/-- Artifacts stay where they are as long as their places are not among the changed ones. -/
theorem Holds.of_keeps {changed : List String → Prop} (h : Holds w e) (hcwd : w'.cwd = w.cwd)
    (hkeeps : FileTree.Keeps changed w.tree w'.tree)
    (hchanged : ∀ name ∈ artifactNames, ¬changed (e.2.directory.resolve w.cwd ++ [name])) :
      Holds w' e := by
  intro a ha
  have hname := fst_mem_artifactNames ha
  obtain ⟨text, htext, hread⟩ := h a ha
  obtain ⟨hlocate, hget⟩ := FileTree.read_eq_ok_iff_get?.mp hread
  refine ⟨text, htext, ?_⟩
  rw [hcwd, FileTree.read_eq_ok_iff_get?]
  refine ⟨FileTree.locate_eq hkeeps.directories hlocate, hkeeps.files _ _ ?_ hget⟩
  rw [resolve_child_artifact _ hname]
  exact hchanged a.1 hname

/-! ### One module -/

theorem write_artifact {t t' : FileTree} {text : String} (hname : name ∈ artifactNames)
    (h : t.writeText cwd (directory.child name) text = .ok t') :
    t'.read cwd (directory.child name) = .ok (encodeText text) ∧
      FileTree.Keeps (· = directory.resolve cwd ++ [name]) t t' := by
  obtain ⟨hlocate, hget, hchanges⟩ := FileTree.write_spec h
  have hread : t'.read cwd (directory.child name) = .ok (encodeText text) :=
    FileTree.read_eq_ok_iff_get?.mpr ⟨FileTree.locate_eq hchanges.directories hlocate, hget⟩
  rw [resolve_child_artifact _ hname] at hchanges
  exact ⟨hread, hchanges.keeps⟩

/-- A document that was written had a text, which went into its file. -/
theorem exists_of_writeDocument {v : Value} (h : writeDocument w directory name v = .ok w') :
    ∃ text tree, Json.render v = some text ∧
      w.tree.writeText w.cwd (directory.child name) text = .ok tree ∧ w' = { w with tree } := by
  unfold writeDocument at h
  split at h
  · cases h
  · next text htext =>
    split at h
    · cases h
    · next tree hwrite => exact ⟨text, tree, htext, hwrite, (Except.ok.inj h).symm⟩

/-- Artifacts that were written went into their files one after the other. -/
theorem exists_of_writeArtifacts {analysis : Analysis} {api : ApiSpec}
    (h : writeArtifacts w directory analysis api = (.ok (), w')) :
    ∃ w₁, writeDocument { w with tree := (w.tree.makeDirectories w.cwd directory).1 } directory
        "analysis.json" analysis.toValue = .ok w₁ ∧
      writeDocument w₁ directory "fastapi-spec.json" api.toValue = .ok w' := by
  unfold writeArtifacts at h
  split at h
  · cases h
  · split at h
    · cases h
    · next tree hmake =>
      rw [hmake]
      split at h
      · cases h
      · next w₁ hanalysis =>
        split at h
        · cases h
        · next w₂ hapi =>
          obtain ⟨-, rfl⟩ := Prod.mk.inj h
          exact ⟨w₁, hanalysis, hapi⟩

/-- To write the artifacts of a module touches nothing else. -/
theorem writeArtifacts_spec (input : ModuleInput) (r : ModuleResult)
    (h : writeArtifacts w r.directory input.analysis r.api = (.ok (), w')) :
    w'.cwd = w.cwd ∧ FileTree.Keeps (IsArtifactPlace w.cwd r.directory) w.tree w'.tree ∧
      Holds w' (input, r) := by
  have hfirst : "analysis.json" ∈ artifactNames := by decide
  have hsecond : "fastapi-spec.json" ∈ artifactNames := by decide
  obtain ⟨w₁, hanalysis, hapi⟩ := exists_of_writeArtifacts h
  obtain ⟨text₁, tree₁, htext₁, hwrite₁, rfl⟩ := exists_of_writeDocument hanalysis
  obtain ⟨text₂, tree₂, htext₂, hwrite₂, rfl⟩ := exists_of_writeDocument hapi
  obtain ⟨hread₁, hkeeps₁⟩ := write_artifact hfirst hwrite₁
  obtain ⟨hread₂, hkeeps₂⟩ := write_artifact hsecond hwrite₂
  have hdirectories : FileTree.Keeps (IsArtifactPlace w.cwd r.directory) w.tree
      (w.tree.makeDirectories w.cwd r.directory).1 :=
    FileTree.keeps_makeDirectories w.tree w.cwd r.directory
  have hplaces₁ := hkeeps₁.mono fun q hq => (⟨_, hfirst, hq⟩ : IsArtifactPlace w.cwd r.directory q)
  have hplaces₂ := hkeeps₂.mono fun q hq => (⟨_, hsecond, hq⟩ : IsArtifactPlace w.cwd r.directory q)
  -- the second file is another one than the first
  have hstays : tree₂.read w.cwd (r.directory.child "analysis.json") = .ok (encodeText text₁) := by
    obtain ⟨hlocate, hget⟩ := FileTree.read_eq_ok_iff_get?.mp hread₁
    rw [FileTree.read_eq_ok_iff_get?]
    refine ⟨FileTree.locate_eq hkeeps₂.directories hlocate, hkeeps₂.files _ _ ?_ hget⟩
    rw [resolve_child_artifact _ hfirst]
    simp
  exact ⟨rfl, (hdirectories.trans hplaces₁).trans hplaces₂,
    holds_iff.mpr ⟨⟨text₁, htext₁, hstays⟩, text₂, htext₂, hread₂⟩⟩

variable {κ : Type} {t : Option Transformer} {p : Provider κ} {size : Int} {m : ModuleSpec}
  {s s' : Session κ}

/-- A run touches nothing but files of its cache. -/
theorem changesOnly_run (t : Transformer) (p : Provider κ) (m : ModuleSpec) (size : Int)
    (signal : Option (Nat → Bool)) (s : Session κ) :
    FileTree.ChangesOnly (t.cache.Reaches s.workspace.cwd) s.workspace.tree
        (t.run p m size signal s).progress.state.workspace.tree ∧
      (t.run p m size signal s).progress.state.workspace.cwd = s.workspace.cwd := by
  let P : Session κ → Prop := fun s' =>
    FileTree.ChangesOnly (t.cache.Reaches s.workspace.cwd) s.workspace.tree s'.workspace.tree ∧
      s'.workspace.cwd = s.workspace.cwd
  have hsame : ∀ s₁ s₂ : Session κ, P s₁ → s₂.workspace.SameFiles s₁.workspace → P s₂ := by
    intro s₁ s₂ h hfiles
    refine ⟨?_, hfiles.cwd.trans h.2⟩
    rw [hfiles.tree]
    exact h.1
  have hkeeps : (t.backend p).Keeps P :=
    { lookup := fun c s₁ h => hsame s₁ _ h (Cache.lookup_files t.cache c s₁.workspace)
      generate := fun c s₁ h => hsame s₁ _ h (generate_sameFiles t.generator p c s₁)
      store := fun c answer s₁ h => by
        obtain ⟨hchanges, hcwd⟩ := Cache.changesOnly_store t.cache c answer s₁.workspace
        rw [h.2] at hchanges
        exact ⟨h.1.trans hchanges, hcwd.trans h.2⟩
      record := fun r s₁ h => hsame s₁ _ h ⟨rfl, rfl⟩ }
  exact hkeeps.transform _ m ⟨.refl _ _, rfl⟩

/-- The files of the cache that a module is transformed with, if it is transformed with one. -/
def CacheReaches (t : Option Transformer) (cwd q : List String) : Prop :=
  ∃ t' ∈ t, t'.cache.Reaches cwd q

theorem changesOnly_transformModule (t : Option Transformer) (p : Provider κ) (size : Int)
    (m : ModuleSpec) (s : Session κ) :
    FileTree.ChangesOnly (CacheReaches t s.workspace.cwd) s.workspace.tree
        (transformModule t p size m s).2.workspace.tree ∧
      (transformModule t p size m s).2.workspace.cwd = s.workspace.cwd := by
  cases t with
  | none => exact ⟨.refl _ _, rfl⟩
  | some t =>
    obtain ⟨hchanges, hcwd⟩ := changesOnly_run t p m size none s
    exact ⟨hchanges.mono fun q hq => ⟨t, rfl, hq⟩, hcwd⟩

theorem keeps_transformModule (t : Option Transformer) (p : Provider κ) (size : Int)
    (m : ModuleSpec) (s : Session κ) :
    FileTree.Keeps Cache.Touches s.workspace.tree (transformModule t p size m s).2.workspace.tree ∧
      (transformModule t p size m s).2.workspace.cwd = s.workspace.cwd := by
  obtain ⟨hchanges, hcwd⟩ := changesOnly_transformModule t p size m s
  refine ⟨hchanges.keeps.mono ?_, hcwd⟩
  rintro q ⟨t, -, hq⟩
  exact hq.touches

/-- What migrating modules does to the files: the artifacts of each module were written, and
whatever else was there is as it was, but for the cache. -/
structure Migrated (output : Path) (w w' : Workspace)
    (entries : List (ModuleInput × ModuleResult)) : Prop where
  cwd : w'.cwd = w.cwd
  keeps : FileTree.Keeps (fun q => Cache.Touches q ∨
    ∃ e ∈ entries, IsArtifactPlace w.cwd e.2.directory q)
    w.tree w'.tree
  names : ∀ e ∈ entries, e.2.moduleName = e.1.module.moduleName ∧
    e.2.directory = artifactDirectory output e.2.moduleName
  located : ∀ e ∈ entries, ∀ name ∈ artifactNames, w'.tree.locate w.cwd (e.2.directory.child name) =
    .ok (e.2.directory.resolve w.cwd ++ [name])
  last : ∀ before e after, entries = before ++ e :: after →
    (∀ e' ∈ after, ¬SharesDirectory w.cwd e' e) → Holds w' e

variable {output : Path} {input : ModuleInput} {r : ModuleResult}
  {entries : List (ModuleInput × ModuleResult)}

theorem Holds.locate (h : Holds w e) (hname : name ∈ artifactNames) :
    w.tree.locate w.cwd (e.2.directory.child name) =
      .ok (e.2.directory.resolve w.cwd ++ [name]) := by
  have hnames : (artifacts e).map Prod.fst = artifactNames := rfl
  obtain ⟨a, ha, rfl⟩ := List.mem_map.mp (hnames ▸ hname)
  obtain ⟨text, -, hread⟩ := h a ha
  rw [← resolve_child_artifact _ hname]
  exact (FileTree.read_eq_ok_iff_get?.mp hread).1

/-- A module that was migrated was transformed, and its artifacts were written. -/
theorem writeArtifacts_of_migrateModule (h : migrateModule t p size output input s = (.ok r, s')) :
    r.moduleName = input.module.moduleName ∧ r.directory = artifactDirectory output r.moduleName ∧
      writeArtifacts (transformModule t p size input.module
        (s.record (moduleRecord input.module))).2.workspace
        r.directory input.analysis r.api = (.ok (), s'.workspace) := by
  unfold migrateModule at h
  split at h
  · cases h
  · next api stats s₁ hmodule =>
    rw [hmodule]
    dsimp only at h
    split at h
    · cases h
    · next w₂ hwrite =>
      obtain ⟨hresult, rfl⟩ := Prod.mk.inj h
      obtain rfl := Except.ok.inj hresult
      exact ⟨rfl, rfl, hwrite⟩

theorem migrated_module (h : migrateModule t p size output input s = (.ok r, s')) :
    Migrated output s.workspace s'.workspace [(input, r)] := by
  obtain ⟨hname, hdirectory, hwrite⟩ := writeArtifacts_of_migrateModule h
  obtain ⟨hkeeps₁, hcwd₁⟩ :=
    keeps_transformModule t p size input.module (s.record (moduleRecord input.module))
  obtain ⟨hcwd₂, hkeeps₂, hholds⟩ := writeArtifacts_spec input r hwrite
  have hcwd : s'.workspace.cwd = s.workspace.cwd := hcwd₂.trans hcwd₁
  rw [hcwd₁] at hkeeps₂
  constructor
  · exact hcwd
  · refine (hkeeps₁.mono fun q hq => .inl hq).trans (hkeeps₂.mono fun q hq => ?_)
    exact .inr ⟨(input, r), List.mem_singleton_self _, hq⟩
  · intro e he
    rw [List.mem_singleton.mp he]
    exact ⟨hname, hdirectory⟩
  · intro e he name hname
    rw [List.mem_singleton.mp he, ← hcwd]
    exact hholds.locate hname
  · intro before e after hentries _
    have he : e ∈ before ++ e :: after := List.mem_append_right _ List.mem_cons_self
    rw [← hentries] at he
    rw [List.mem_singleton.mp he]
    exact hholds

/-- What a later module does leaves the artifacts of an earlier one, unless they share a
directory. -/
theorem Migrated.cons {w₁ : Workspace} (h : Migrated output w w₁ [e])
    (hrest : Migrated output w₁ w' entries) :
    Migrated output w w' (e :: entries) := by
  have hlocated : ∀ e ∈ entries, ∀ name ∈ artifactNames,
      w'.tree.locate w.cwd (e.2.directory.child name) =
        .ok (e.2.directory.resolve w.cwd ++ [name]) := by
    rw [← h.cwd]
    exact hrest.located
  have hkeeps := hrest.keeps
  rw [h.cwd] at hkeeps
  refine ⟨hrest.cwd.trans h.cwd, ?_, ?_, ?_, ?_⟩
  · refine (h.keeps.mono ?_).trans (hkeeps.mono ?_)
    · intro q hq
      refine hq.imp_right ?_
      rintro ⟨e', he', hplace⟩
      exact ⟨e', List.mem_cons.mpr (.inl (List.mem_singleton.mp he')), hplace⟩
    · intro q hq
      refine hq.imp_right ?_
      rintro ⟨e', he', hplace⟩
      exact ⟨e', List.mem_cons_of_mem _ he', hplace⟩
  · exact List.forall_mem_cons.mpr ⟨h.names e (List.mem_singleton_self e), hrest.names⟩
  · refine List.forall_mem_cons.mpr ⟨fun name hname => ?_, hlocated⟩
    exact FileTree.locate_eq hkeeps.directories (h.located e (List.mem_singleton_self e) name hname)
  · intro before e' after hentries hlater
    cases before with
    | nil =>
      obtain ⟨rfl, rfl⟩ := List.cons.inj hentries
      have hholds : Holds w₁ e := h.last [] e [] rfl nofun
      refine hholds.of_keeps hrest.cwd hrest.keeps ?_
      rintro name hname (htouches | ⟨e', he', hplace⟩)
      · exact not_touches_artifact hname htouches
      · rw [h.cwd] at hplace
        exact hlater e' he' (resolve_eq_of_isArtifactPlace hplace).symm
    | cons first before =>
      refine hrest.last before e' after (List.cons.inj hentries).2 ?_
      rw [h.cwd]
      exact hlater

theorem migrated_all {inputs : List ModuleInput} {results : List ModuleResult}
    (h : migrateAll t p size output inputs s = (.ok results, s')) :
    results.length = inputs.length ∧
    Migrated output s.workspace s'.workspace (inputs.zip results) := by
  induction inputs generalizing s results with
  | nil =>
    obtain ⟨hresults, rfl⟩ := Prod.mk.inj h
    obtain rfl := Except.ok.inj hresults
    exact ⟨rfl, rfl, .refl _ _, nofun, nofun, fun before e after hentries => by simp at hentries⟩
  | cons input rest ih =>
    rw [migrateAll] at h
    split at h
    · exact absurd (Prod.mk.inj h).1 nofun
    · next r s₁ hmodule =>
      rcases hrest : migrateAll t p size output rest s₁ with ⟨outcome, s₂⟩
      rw [hrest] at h
      cases outcome with
      | error e => exact absurd (Prod.mk.inj h).1 nofun
      | ok more =>
        obtain ⟨hresults, rfl⟩ := Prod.mk.inj h
        obtain rfl := Except.ok.inj hresults
        obtain ⟨hlength, hmigrated⟩ := ih hrest
        exact ⟨congrArg (· + 1) hlength, (migrated_module hmodule).cons hmigrated⟩

/-! ### All modules -/

/-- Of the items of a kind in a list, one is the last. -/
theorem exists_last {α : Type} {q : α → Prop} {xs : List α} (h : ∃ x ∈ xs, q x) :
    ∃ before x after, xs = before ++ x :: after ∧ q x ∧ ∀ y ∈ after, ¬q y := by
  induction xs with
  | nil =>
    obtain ⟨x, hx, -⟩ := h
    exact absurd hx List.not_mem_nil
  | cons x rest ih =>
    by_cases hrest : ∃ y ∈ rest, q y
    · obtain ⟨before, y, after, rfl, hy, hafter⟩ := ih hrest
      exact ⟨x :: before, y, after, rfl, hy, hafter⟩
    · have hnone : ∀ y ∈ rest, ¬q y := fun y hy hqy => hrest ⟨y, hy, hqy⟩
      obtain ⟨y, hy, hqy⟩ := h
      rcases List.mem_cons.mp hy with rfl | hy
      · exact ⟨[], y, rest, rfl, hqy, hnone⟩
      · exact absurd hqy (hnone y hy)

/-- If the last module of each directory has its artifacts there, then of each directory some module
does. -/
theorem exists_holds (hlast : ∀ before e after, entries = before ++ e :: after →
    (∀ e' ∈ after, ¬SharesDirectory cwd e' e) → Holds w' e) (he : e ∈ entries) :
    ∃ e' ∈ entries, SharesDirectory cwd e' e ∧ Holds w' e' := by
  obtain ⟨before, e', after, hentries, hshares, hlater⟩ :=
    exists_last (q := fun e' => SharesDirectory cwd e' e) ⟨e, he, rfl⟩
  refine ⟨e', hentries ▸ List.mem_append_right _ List.mem_cons_self, hshares, ?_⟩
  apply hlast before e' after hentries
  intro y hy hyShares
  exact hlater y hy (hyShares.trans hshares)

/-- Artifacts in one directory are the same ones if all of them are there. -/
theorem artifacts_eq_of_holds (h : Holds w e) (h' : Holds w e')
    (hshares : SharesDirectory w.cwd e e') :
    artifacts e = artifacts e' := by
  have htext : ∀ name ∈ artifactNames, ∀ text text',
      w.tree.read w.cwd (e.2.directory.child name) = .ok (encodeText text) →
      w.tree.read w.cwd (e'.2.directory.child name) = .ok (encodeText text') → text = text' := by
    intro name hname text text' hread hread'
    obtain ⟨-, hget⟩ := FileTree.read_eq_ok_iff_get?.mp hread
    obtain ⟨-, hget'⟩ := FileTree.read_eq_ok_iff_get?.mp hread'
    rw [resolve_child_artifact _ hname] at hget hget'
    rw [hshares, hget'] at hget
    exact (encodeText_injective (FileEntry.file.inj (Option.some.inj hget))).symm
  obtain ⟨⟨text₁, htext₁, hread₁⟩, text₂, htext₂, hread₂⟩ := holds_iff.mp h
  obtain ⟨⟨text₁', htext₁', hread₁'⟩, text₂', htext₂', hread₂'⟩ := holds_iff.mp h'
  rw [artifacts, artifacts, htext₁, htext₂, htext₁', htext₂',
    htext _ (by decide) _ _ hread₁ hread₁', htext _ (by decide) _ _ hread₂ hread₂']

/-- All modules keep their artifacts exactly if those of one directory have the same ones. -/
theorem Migrated.holds_iff (h : Migrated output w w' entries) :
    (∀ e ∈ entries, Holds w' e) ↔
      ∀ e ∈ entries, ∀ e' ∈ entries, SharesDirectory w.cwd e e' → artifacts e = artifacts e' := by
  constructor
  · intro hall e he e' he' hshares
    rw [← h.cwd] at hshares
    exact artifacts_eq_of_holds (hall e he) (hall e' he') hshares
  · intro hsame e he
    obtain ⟨e', he', hshares, hlast⟩ := exists_holds h.last he
    intro a ha
    have hname := fst_mem_artifactNames ha
    rw [← hsame e' he' e he hshares] at ha
    obtain ⟨text, htext, hread⟩ := hlast a ha
    obtain ⟨-, hget⟩ := FileTree.read_eq_ok_iff_get?.mp hread
    rw [resolve_child_artifact _ hname, h.cwd, hshares] at hget
    refine ⟨text, htext, ?_⟩
    rw [FileTree.read_eq_ok_iff_get?, resolve_child_artifact _ hname, h.cwd]
    exact ⟨h.located e he a.1 hname, hget⟩

/-- What is there of the modules of a migration, each with its result, when it is over. -/
structure LeavesArtifacts (cwd : List String) (w' : Workspace) (output : Path)
    (entries : List (ModuleInput × ModuleResult)) : Prop where
  names : ∀ e ∈ entries, e.2.moduleName = e.1.module.moduleName ∧
    e.2.directory = artifactDirectory output e.2.moduleName
  last : ∀ before e after, entries = before ++ e :: after →
    (∀ e' ∈ after, ¬SharesDirectory cwd e' e) → Holds w' e
  all : (∀ e ∈ entries, Holds w' e) ↔
    ∀ e ∈ entries, ∀ e' ∈ entries, SharesDirectory cwd e e' → artifacts e = artifacts e'

theorem Migrated.leavesArtifacts (h : Migrated output w w' entries) :
    LeavesArtifacts w.cwd w' output entries := ⟨h.names, h.last, h.holds_iff⟩

theorem artifacts_of_migrateFrom {input : Path} {results : List ModuleResult}
    (h : migrateFrom t p size input output s = (.ok results, s')) :
    ∃ modules, (ModuleInput.loadFrom s.workspace input).2 = .ok modules ∧
    results.length = modules.length ∧
      LeavesArtifacts s.workspace.cwd s'.workspace output (modules.zip results) := by
  unfold migrateFrom at h
  rcases hload : ModuleInput.loadFrom s.workspace input with ⟨records, outcome⟩
  rw [hload] at h
  dsimp only at h
  split at h
  · exact absurd (Prod.mk.inj h).1 nofun
  · obtain ⟨hresults, -⟩ := Prod.mk.inj h
    obtain rfl := Except.ok.inj hresults
    refine ⟨[], rfl, rfl, nofun, ?_, ?_⟩
    · intro before e after hentries
      simp at hentries
    · simp
  · next modules _ =>
    obtain ⟨hlength, hmigrated⟩ := migrated_all h
    exact ⟨modules, rfl, hlength, hmigrated.leavesArtifacts⟩

/-- When a run returns, the last module of each directory has its artifacts there, and all modules
have theirs exactly if those that share a directory have the same ones. -/
theorem artifacts_of_run {settings : Settings} {results : List ModuleResult}
    (h : run settings p s = (.ok results, s')) :
    ∃ input output modules, settings.input = some input ∧ settings.output = some output ∧
      (ModuleInput.loadFrom (openTransformer settings s.workspace).2 input).2 = .ok modules ∧
      results.length = modules.length ∧
      LeavesArtifacts s.workspace.cwd s'.workspace output (modules.zip results) := by
  unfold run at h
  have hcwd : (openTransformer settings s.workspace).2.cwd = s.workspace.cwd := by
    unfold openTransformer
    split
    · exact (Cache.keeps_openAt _ _).2
    · rfl
  rcases hopen : openTransformer settings s.workspace with ⟨t, w⟩
  rw [hopen] at h hcwd
  dsimp only at h
  split at h
  · next input output hinput houtput =>
    obtain ⟨modules, hmodules, hlength, hleaves⟩ := artifacts_of_migrateFrom h
    dsimp only at hmodules hleaves
    rw [hcwd] at hleaves
    exact ⟨input, output, modules, hinput, houtput, hmodules, hlength, hleaves⟩
  · exact absurd (Prod.mk.inj h).1 nofun

/-! ### Two modules of one name -/

/-- The payload of a module that says which name it goes by, and has one type. -/
def corePayload (dto : String) : String :=
  "\x7b\"moduleName\": \"core\", \"dtos\": [\x7b\"name\": \"" ++ dto ++ "\"\x7d]\x7d"

/-- Two files with different types and one name of a module. -/
def coreWorkspace : Workspace where
  tree := { entries := [
    (["in"], .directory),
    (["in", "a.json"], .file (encodeText (corePayload "Order"))),
    (["in", "b.json"], .file (encodeText (corePayload "Buyer")))] }

def coreInput : Path := { parts := ["in"] }

def coreOutput : Path := { parts := ["out"] }

def coreSettings : Settings where
  input := some coreInput
  output := some coreOutput
  usesModel := false

def coreModule (dto : String) : ModuleInput where
  analysis := { dtos := [{ name := dto }] }
  module :=
    { projectName := "in"
      moduleName := "core"
      dtos := [{ name := dto }]
      metadata := [("root", "/in"), ("module", "core")] }

theorem loadFrom_coreWorkspace :
    ModuleInput.loadFrom coreWorkspace coreInput =
      ([], .ok [coreModule "Order", coreModule "Buyer"]) := by
  have hlocate : coreWorkspace.tree.locate coreWorkspace.cwd coreInput = .ok ["in"] := by
    decide +kernel
  have hfiles : ModuleInput.filesIn coreWorkspace coreInput =
      [{ parts := ["in", "a.json"] }, { parts := ["in", "b.json"] }] := by
    rw [ModuleInput.filesIn_of_pairwise hlocate (by decide +kernel)]
    decide +kernel
  have hload : ModuleInput.loadAll coreWorkspace [{ parts := ["in", "a.json"] },
    { parts := ["in", "b.json"] }] =
      ([], .ok [coreModule "Order", coreModule "Buyer"]) := by decide +kernel
  have hdirectory : coreWorkspace.tree.isDirectory coreWorkspace.cwd coreInput = true := by
    decide +kernel
  rw [ModuleInput.loadFrom_of_isDirectory hdirectory, hfiles, hload]

/-- The run over the two modules returns. -/
theorem exists_coreRun : ∃ results s',
    migrateFrom none unreachable 10 coreInput coreOutput ⟨coreWorkspace, ()⟩ =
    (.ok results, s') := by
  have hok : (migrateAll none unreachable 10 coreOutput [coreModule "Order", coreModule "Buyer"]
      ⟨(coreWorkspace.recordAll []).record (detectedRecord 2), ()⟩).1.isOk = true := by
        decide +kernel
  unfold migrateFrom
  rw [loadFrom_coreWorkspace]
  rcases hrun : migrateAll none unreachable 10 coreOutput [coreModule "Order", coreModule "Buyer"]
    ⟨(coreWorkspace.recordAll []).record (detectedRecord 2), ()⟩ with ⟨outcome, s'⟩
  rw [hrun] at hok
  cases outcome with
  | error e => exact absurd hok nofun
  | ok results => exact ⟨results, s', hrun⟩

theorem artifacts_of_run_core :
    ∃ results s', run coreSettings unreachable ⟨coreWorkspace, ()⟩ = (.ok results, s') ∧
      ∃ input output modules, coreSettings.input = some input ∧ coreSettings.output = some output ∧
        (ModuleInput.loadFrom (openTransformer coreSettings coreWorkspace).2 input).2 =
          .ok modules ∧
        results.length = modules.length ∧
        LeavesArtifacts [] s'.workspace output (modules.zip results) := by
  obtain ⟨results, s', hrun⟩ := exists_coreRun
  have hsettings : run coreSettings unreachable ⟨coreWorkspace, ()⟩ = (.ok results, s') := hrun
  exact ⟨results, s', hsettings, artifacts_of_run hsettings⟩

/-- Two modules of one name are written into one directory, and not both keep their artifacts. -/
theorem core_loses_artifacts :
    ∃ results s', run coreSettings unreachable ⟨coreWorkspace, ()⟩ = (.ok results, s') ∧
      (ModuleInput.loadFrom coreWorkspace coreInput).2 =
        .ok [coreModule "Order", coreModule "Buyer"] ∧
      ¬∀ e ∈ [coreModule "Order", coreModule "Buyer"].zip results, Holds s'.workspace e := by
  obtain ⟨results, s', hrun⟩ := exists_coreRun
  have hload : (ModuleInput.loadFrom coreWorkspace coreInput).2 =
      .ok [coreModule "Order", coreModule "Buyer"] := by
    rw [loadFrom_coreWorkspace]
  refine ⟨results, s', hrun, hload, ?_⟩
  obtain ⟨modules, hmodules, hlength, hleaves⟩ := artifacts_of_migrateFrom hrun
  obtain rfl : modules = [coreModule "Order", coreModule "Buyer"] :=
    Except.ok.inj (hmodules.symm.trans hload)
  obtain ⟨order, buyer, rfl⟩ := List.length_eq_two.mp hlength
  intro hall
  have hmemOrder : (coreModule "Order", order) ∈ [coreModule "Order", coreModule "Buyer"].zip
      [order, buyer] := by
    simp
  have hmemBuyer : (coreModule "Buyer", buyer) ∈ [coreModule "Order", coreModule "Buyer"].zip
      [order, buyer] := by
    simp
  obtain ⟨hnameOrder, hdirectoryOrder⟩ := hleaves.names _ hmemOrder
  obtain ⟨hnameBuyer, hdirectoryBuyer⟩ := hleaves.names _ hmemBuyer
  have hshares : SharesDirectory [] (coreModule "Order", order) (coreModule "Buyer", buyer) := by
    rw [SharesDirectory, hdirectoryOrder, hdirectoryBuyer, hnameOrder, hnameBuyer]
    rfl
  have hsame := hleaves.all.mp hall _ hmemOrder _ hmemBuyer hshares
  have htext : Json.render (coreModule "Order").analysis.toValue =
      Json.render (coreModule "Buyer").analysis.toValue := (Prod.mk.inj (List.cons.inj hsame).1).2
  exact absurd htext (by decide +kernel)

end ServiceMigration.Migration
