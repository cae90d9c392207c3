import ServiceMigration.Cache.Basic
import ServiceMigration.Proofs.Cache.Storing
import ServiceMigration.Proofs.Files.Keeping
/-!
# What a cache touches

Whatever stands in the way of a cache, a store touches nothing but files of its directory, and of
these only those that go by the name of an entry or of a temporary file (`Cache.changesOnly_store`).
To open a cache makes directories and does nothing else (`Cache.snd_openAt`).
-/

namespace ServiceMigration

namespace Storing

variable {cwd place : List String} {job : Job} {t t' : FileTree} {phase phase' : Phase}

/-- The place of a temporary file, or of a file of some name. -/
def Touches (name : String) (q : List String) : Prop :=
  ∃ place last, q = place ++ [last] ∧ (IsTemporaryName last ∨ last = name)

/-- The place of a temporary file, or of a file of some name, in a directory. -/
def TouchesIn (place : List String) (name : String) (q : List String) : Prop :=
  ∃ last, q = place ++ [last] ∧ (IsTemporaryName last ∨ last = name)

theorem TouchesIn.touches {name : String} {q : List String} (h : TouchesIn place name q) :
    Touches name q :=
  ⟨place, h⟩

theorem Phase.isIn_creating (place : List String) : Phase.creating.IsIn place := nofun

theorem Phase.IsIn.touchesIn (h : phase.IsIn place) {q : List String}
    (hq : phase.temporary? = some q) (name : String) : TouchesIn place name q := by
  obtain ⟨last, rfl, hlast⟩ := h q hq
  exact ⟨last, rfl, .inl hlast⟩

theorem Moved.changesOnly (h : Moved place job t phase t' phase') (hphase : phase.IsIn place)
    (hholds : phase.Holds job.content t) :
      FileTree.ChangesOnly (TouchesIn place job.name) t t' where
  directories := h.hasDirectoriesOf hholds
  elsewhere q hq := by
    have hentry : q ≠ place ++ [job.name] := by
      rintro rfl
      exact hq ⟨job.name, rfl, .inr rfl⟩
    have hbefore : phase.temporary? ≠ some q := fun htemporary => hq (hphase.touchesIn htemporary _)
    have hafter : phase'.temporary? ≠ some q := fun htemporary =>
      hq ((h.isIn hphase).touchesIn htemporary _)
    exact h.get?_eq hentry hbefore hafter

theorem changesOnly_steps {chances : List Chance} (hlocate : t.locate cwd job.directory = .ok place)
    (hplace : t.get? place = some .directory) (hphase : phase.IsIn place)
    (hholds : phase.Holds job.content t) :
    FileTree.ChangesOnly (TouchesIn place job.name) t (steps cwd job chances t phase).1 := by
  induction chances generalizing t phase with
  | nil => exact .refl _ t
  | cons chance rest ih =>
    have hmoved := moved hlocate hplace hphase chance
    have hchanges := hmoved.changesOnly hphase hholds
    have hrest :=
      ih (FileTree.locate_eq hchanges.directories hlocate) (hchanges.directories place hplace)
      (hmoved.isIn hphase) (hmoved.holds hholds)
    exact hchanges.trans hrest

/-- A store that is over does nothing. -/
theorem steps_done (cwd : List String) (job : Job) (chances : List Chance) (t : FileTree)
    (ending : Ending) : steps cwd job chances t (.done ending) = (t, .done ending) := by
  induction chances with
  | nil => rfl
  | cons chance rest ih => exact ih

/-- A store that gets no temporary file is over with its first step. -/
theorem steps_of_not_created {e : FileError} (hcreate : create cwd job t = .error e)
    (chance : Chance) (rest : List Chance) :
    steps cwd job (chance :: rest) t .creating = (t, .done (.failed (chance.fault.getD e))) := by
  have hstep : step cwd job chance t .creating = (t, .done (.failed (chance.fault.getD e))) := by
    rw [step, hcreate]
    cases chance.fault <;> rfl
  rw [steps, hstep]
  exact steps_done cwd job rest t _

/-- Without a way to its directory a store gets no temporary file. -/
theorem create_of_not_located {problem : FileProblem}
    (h : t.locate cwd (job.directory.child "x") = .error problem) :
    create cwd job t = .error ⟨problem, temporaryPath cwd job (temporaryName 0), none⟩ := by
  rw [create, h]

/-- Whatever happens to its steps, a store touches nothing outside of its directory. -/
theorem changesOnly_run (cwd : List String) (job : Job) (chances : List Chance) (t : FileTree) :
    FileTree.ChangesOnly (TouchesIn (job.directory.resolve cwd) job.name) t
      (run cwd job chances t).1 := by
  have hsteps : FileTree.ChangesOnly (TouchesIn (job.directory.resolve cwd) job.name) t
      (steps cwd job chances t .creating).1 := by
    cases hchild : t.locate cwd (job.directory.child "x") with
    | error problem =>
      cases chances with
      | nil => exact .refl _ t
      | cons chance rest =>
        rw [steps_of_not_created (create_of_not_located hchild)]
        exact .refl _ t
    | ok q =>
      obtain ⟨place, hlocate, hplace, -⟩ :=
        FileTree.exists_of_locate_append_singleton (p := job.directory) (by decide) hchild
      rw [← FileTree.locate_eq_resolve hlocate]
      exact changesOnly_steps hlocate hplace (Phase.isIn_creating place) trivial
  unfold run
  split
  · next h =>
    rw [h] at hsteps
    exact hsteps
  · next h =>
    rw [h] at hsteps
    exact hsteps

end Storing

namespace Cache

/-- The place of an entry of some chunk, or of a temporary file. -/
def Touches (q : List String) : Prop := ∃ key, IsKey key ∧ Storing.Touches (entryName key) q

/-- The place of an entry of some chunk, or of a temporary file, in a directory. -/
def TouchesIn (place q : List String) : Prop :=
  ∃ key, IsKey key ∧ Storing.TouchesIn place (entryName key) q

/-- A cache touches the files of its directory, if it has one and is in use. -/
def Reaches (c : Cache) (cwd q : List String) : Prop :=
  c.enabled = true ∧ ∃ d, c.directory = some d ∧ TouchesIn (d.resolve cwd) q

theorem Reaches.touches {c : Cache} {cwd q : List String} (h : c.Reaches cwd q) : Touches q := by
  obtain ⟨-, d, -, key, hkey, hq⟩ := h
  exact ⟨key, hkey, hq.touches⟩

theorem changesOnly_storeUnder (c : Cache) (chances : List Storing.Chance) (m : ModuleSpec)
    (answer : ApiSpec) (w : Workspace) :
    FileTree.ChangesOnly (c.Reaches w.cwd) w.tree (c.storeUnder chances m answer w).2.tree ∧
      (c.storeUnder chances m answer w).2.cwd = w.cwd := by
  rcases lookup_cases c m with hunused | hlacks | ⟨d, key, henabled, hd, hkey⟩
  · rw [storeUnder_of_not_isUsed hunused]
    exact ⟨.refl _ _, rfl⟩
  · rw [storeUnder_of_lacksKey hlacks]
    exact ⟨.refl _ _, rfl⟩
  · have hrun := (Storing.changesOnly_run w.cwd (job d key answer) chances w.tree).mono fun q hq =>
      (⟨henabled, d, hd, key, isKey_of_contentKey hkey, hq⟩ : c.Reaches w.cwd q)
    obtain ⟨htree, hcwd⟩ :=
      settle_snd key w (Storing.run w.cwd (job d key answer) chances w.tree)
    rw [storeUnder_of_key henabled hd hkey, htree, hcwd]
    exact ⟨hrun, rfl⟩

theorem changesOnly_store (c : Cache) (m : ModuleSpec) (answer : ApiSpec) (w : Workspace) :
    FileTree.ChangesOnly (c.Reaches w.cwd) w.tree (c.store m answer w).2.tree ∧
      (c.store m answer w).2.cwd = w.cwd :=
  changesOnly_storeUnder c Storing.undisturbed m answer w

theorem snd_openAt (d : Path) (w : Workspace) :
    (openAt (some d) w).2.cwd = w.cwd ∧ (openAt (some d) w).2.tree =
      (w.tree.makeDirectories w.cwd d).1 := by
  rw [openAt]
  split
  · next tree h =>
    rw [h]
    exact ⟨rfl, rfl⟩
  · next tree e h =>
    rw [h]
    exact ⟨rfl, rfl⟩

theorem directory_openAt (d : Path) (w : Workspace) : (openAt (some d) w).1.directory = some d := by
  rw [openAt]
  split
  · rfl
  · rfl

theorem keeps_openAt (directory : Option Path) (w : Workspace) :
    FileTree.Keeps Touches w.tree (openAt directory w).2.tree ∧
    (openAt directory w).2.cwd = w.cwd := by
  cases directory with
  | none => exact ⟨.refl _ _, rfl⟩
  | some d =>
    obtain ⟨hcwd, htree⟩ := snd_openAt d w
    rw [htree]
    exact ⟨FileTree.keeps_makeDirectories w.tree w.cwd d, hcwd⟩

/-- A name without a dot before it that is shorter than a digest is none of a cache. -/
theorem not_touches {place : List String} {name : String} (hdot : name.toList.head? ≠ some '.')
    (hlength : name.toList.length ≠ 69) : ¬Touches (place ++ [name]) := by
  rintro ⟨key, hkey, place', last, hplace, hlast⟩
  obtain ⟨-, hname⟩ := List.append_inj' hplace rfl
  obtain rfl := List.singleton_injective hname
  rcases hlast with ⟨middle, rfl⟩ | rfl
  · simp at hdot
  · exact hlength (length_entryName hkey)

end Cache

end ServiceMigration
