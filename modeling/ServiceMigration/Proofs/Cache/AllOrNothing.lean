import ServiceMigration.Proofs.Cache.Footprint
import ServiceMigration.Proofs.Cache.Working
/-!
# Stores that fail

Each step of a store may fail, at any time and more than once.  What a store has changed of the
files is known in every phase (`Storing.Phase.HasChanged`): nothing but its temporary file until the
entry is replaced, and nothing at all once that file has been removed.  So a store of an answer that
can be written, under a key that there is, has either stored the whole answer or left everything as
it was, and it is over after so many steps.  An answer that cannot be written is not stored and ends
the run, with an empty temporary file left behind (`Cache.store_all_or_nothing`,
`Cache.store_longAnswer`).
-/

namespace ServiceMigration

namespace Storing

variable {cwd place : List String} {job : Job} {t₀ t t' : FileTree} {phase phase' : Phase}
  {chance : Chance} {chances : List Chance}

/-! ### Steps that fail -/

def Phase.IsOver (phase : Phase) : Prop := ∃ ending, phase = .done ending

/-- Some step of the store has failed. -/
def Phase.HasFailed : Phase → Prop
  | .removing _ _ | .done (.failed _) => True
  | .creating | .writing _ _ | .closing _ | .replacing _ | .abandoning _ | .done .stored
  | .done .abandoned => False

def Phase.isRemoving : Phase → Bool
  | .removing _ _ => true
  | _ => false

/-- What is true of each step of a store: of the phase in which it is taken, and of what happens to
it. -/
def Along (p : Phase → Chance → Prop) (cwd : List String) (job : Job) :
    List Chance → FileTree → Phase → Prop
  | [], _, _ => True
  | chance :: rest, t, phase =>
    p phase chance ∧
      Along p cwd job rest (step cwd job chance t phase).1 (step cwd job chance t phase).2

instance decidableAlong {p : Phase → Chance → Prop} [∀ phase chance, Decidable (p phase chance)]
    (cwd : List String) (job : Job) :
    (chances : List Chance) → (t : FileTree) → (phase : Phase) →
      Decidable (Along p cwd job chances t phase)
  | [], _, _ => inferInstanceAs (Decidable True)
  | chance :: rest, t, phase =>
    have := decidableAlong (p := p) cwd job rest (step cwd job chance t phase).1
      (step cwd job chance t phase).2
    inferInstanceAs (Decidable (_ ∧ _))

/-- Nothing comes in the way when a temporary file is removed. -/
def Removes : List String → Job → List Chance → FileTree → Phase → Prop :=
  Along fun phase chance => phase.isRemoving = true → chance.fault = none

/-- No step is made to fail from outside before the store is over. -/
def NothingFails : List String → Job → List Chance → FileTree → Phase → Prop :=
  Along fun phase chance => phase.IsOver ∨ chance.fault = none

theorem hasFailed_step (cwd : List String) (job : Job) (chance : Chance) (t : FileTree)
    (h : phase.HasFailed) :
    (step cwd job chance t phase).2.HasFailed := by
  cases phase with
  | removing temporary e =>
    rw [step]
    cases chance.fault <;> trivial
  | done ending => exact h
  | creating | writing | closing | replacing | abandoning => exact absurd h id

theorem hasFailed_steps (cwd : List String) (job : Job) (chances : List Chance) (t : FileTree)
    (h : phase.HasFailed) : (steps cwd job chances t phase).2.HasFailed := by
  induction chances generalizing t phase with
  | nil => exact h
  | cons chance rest ih => exact ih _ (hasFailed_step cwd job chance t h)

/-- A step that is made to fail is the end of a store that might have succeeded. -/
theorem hasFailed_of_fault {e : FileError} (hfault : chance.fault = some e)
    (hphase : ¬ phase.IsOver)
    (cwd : List String) (job : Job) (t : FileTree) : (step cwd job chance t phase).2.HasFailed := by
  cases phase with
  | done ending => exact absurd ⟨ending, rfl⟩ hphase
  | creating | writing | closing | replacing | removing | abandoning =>
    simp only [step, hfault]
    trivial

/-- With the directory of the entry in its place, and no directory in the place of an entry that is
to be replaced, a step only fails if it is made to. -/
theorem not_hasFailed_step (hlocate : t.locate cwd job.directory = .ok place)
    (hplace : t.get? place = some .directory) (hin : phase.IsIn place)
    (htarget : ∀ temporary, phase = .replacing temporary →
      t.get? (place ++ [job.name]) ≠ some .directory)
    (hfault : chance.fault = none) (h : ¬ phase.HasFailed) :
    ¬ (step cwd job chance t phase).2.HasFailed := by
  cases phase with
  | creating =>
    simp only [step, hfault, create_eq hlocate hplace]
    cases job.content <;> exact id
  | writing temporary rest =>
    simp only [step, hfault]
    split
    · exact id
    · exact id
  | closing temporary =>
    simp only [step, hfault]
    exact id
  | replacing temporary =>
    obtain ⟨name, rfl, -⟩ := hin temporary rfl
    obtain ⟨t', hok, -⟩ := replace_eq cwd (htarget _ rfl)
    simp only [step, hfault]
    rw [hok]
    exact id
  | removing => exact absurd trivial h
  | abandoning =>
    simp only [step, hfault]
    exact id
  | done => exact h

/-! ### What has changed -/

/-- What a store has changed of the files that were there at its beginning. -/
def Phase.HasChanged (place : List String) (job : Job) (t₀ t : FileTree) : Phase → Prop
  | .creating | .done (.failed _) => t.get? = t₀.get?
  | .writing temporary _ | .closing temporary | .replacing temporary | .removing temporary _
  | .abandoning temporary =>
    t₀.get? temporary = none ∧ ∀ q, q ≠ temporary → t.get? q = t₀.get? q
  | .done .stored =>
    ∃ content : List UInt8, job.content = some content ∧
      t₀.get? (place ++ [job.name]) ≠ some .directory ∧
      t.get? = Function.update t₀.get? (place ++ [job.name]) (some (.file ⟨content.toArray⟩))
  | .done .abandoned =>
    job.content = none ∧ ∃ name, IsTemporaryName name ∧ t₀.get? (place ++ [name]) = none ∧
      t.get? = Function.update t₀.get? (place ++ [name]) (some (.file ⟨#[]⟩))

theorem Phase.HasChanged.of_temporary {temporary : List String}
    (hphase : phase.temporary? = some temporary) (h : phase.HasChanged place job t₀ t) :
    t₀.get? temporary = none ∧ ∀ q, q ≠ temporary → t.get? q = t₀.get? q := by
  cases phase with
  | creating | done => exact absurd hphase nofun
  | writing | closing | replacing | removing | abandoning =>
    obtain rfl := Option.some.inj hphase
    exact h

/-- The temporary file is not the entry. -/
theorem Phase.IsIn.entry_ne (h : phase.IsIn place) (hjob : ¬ IsTemporaryName job.name)
    {temporary : List String}
    (hphase : phase.temporary? = some temporary) : place ++ [job.name] ≠ temporary := by
  obtain ⟨name, rfl, hname⟩ := h temporary hphase
  intro he
  rw [List.append_cancel_left_eq, List.singleton_inj] at he
  exact hjob (he ▸ hname)

/-- With a temporary file where nothing was, the rest is as it was. -/
theorem Phase.hasChanged_afterCreating {temporary : List String} (hfree : t₀.get? temporary = none)
    (hothers : ∀ q, q ≠ temporary → t.get? q = t₀.get? q) :
    (job.afterCreating temporary).HasChanged place job t₀ t := by
  unfold Job.afterCreating
  split
  · exact ⟨hfree, hothers⟩
  · exact ⟨hfree, hothers⟩

theorem Moved.hasChanged (h : Moved place job t phase t' phase') (hjob : ¬ IsTemporaryName job.name)
    (hin : phase.IsIn place) (hholds : phase.Holds job.content t)
    (hgone : ∀ temporary e, phase = .removing temporary e → t'.get? temporary = none)
    (hchanged : phase.HasChanged place job t₀ t) : phase'.HasChanged place job t₀ t' := by
  cases h with
  | created _ hfree hget =>
    have hsame : t.get? = t₀.get? := hchanged
    refine Phase.hasChanged_afterCreating (hsame ▸ hfree) fun q hq => ?_
    rw [hget, Function.update_of_ne hq, hsame]
  | notCreated | closed | rested => exact hchanged
  | @wrote _ temporary rest k hget =>
    obtain ⟨hfree, hothers⟩ := hchanged
    have hwritten : ∀ q, q ≠ temporary → t'.get? q = t₀.get? q := by
      intro q hq
      rw [hget, Function.update_of_ne hq, hothers q hq]
    split
    · exact ⟨hfree, hwritten⟩
    · exact ⟨hfree, hwritten⟩
  | @replaced _ temporary htarget hget =>
    obtain ⟨hfree, hothers⟩ := hchanged
    obtain ⟨whole, hfile, hwhole⟩ := hholds
    have hne := hin.entry_ne hjob rfl
    refine ⟨whole, hwhole, hothers _ hne ▸ htarget, ?_⟩
    funext q
    rw [hget, contentAt_of_file hfile]
    by_cases hq : q = temporary
    · rw [hq, Function.update_self, Function.update_of_ne hne.symm, hfree]
    · rw [Function.update_of_ne hq, Function.update_apply, Function.update_apply, hothers q hq]
  | failed e hphase => exact hchanged.of_temporary hphase
  | @removed _ temporary e hget =>
    obtain ⟨hfree, hothers⟩ := hchanged
    funext q
    by_cases hq : q = temporary
    · rw [hget, hq, Function.update_self, hfree]
    · rw [hget, Function.update_of_ne hq, hothers q hq]
  | @left temporary e =>
    obtain ⟨written, hfile⟩ := hholds
    exact absurd (hfile.symm.trans (hgone temporary e rfl)) nofun
  | @abandoned temporary =>
    obtain ⟨hfree, hothers⟩ := hchanged
    obtain ⟨hfile, hnone⟩ := hholds
    obtain ⟨name, rfl, hname⟩ := hin temporary rfl
    refine ⟨hnone, name, hname, hfree, ?_⟩
    funext q
    by_cases hq : q = place ++ [name]
    · rw [hq, Function.update_self, hfile]
    · rw [Function.update_of_ne hq, hothers q hq]

/-- A store into a directory, as far as it has got since the files were `t₀`. -/
structure Underway (place : List String) (job : Job) (t₀ t : FileTree) (phase : Phase) : Prop where
  directories : t.HasDirectoriesOf t₀
  isIn : phase.IsIn place
  holds : phase.Holds job.content t
  changed : phase.HasChanged place job t₀ t

theorem underway_creating (place : List String) (job : Job) (t : FileTree) :
    Underway place job t t .creating :=
  ⟨fun _ h => h, Phase.isIn_creating place, trivial, rfl⟩

/-- In the place of the entry there is what was there, unless the store is over. -/
theorem Underway.get?_entry (h : Underway place job t₀ t phase) (hjob : ¬ IsTemporaryName job.name)
    (hphase : ¬ phase.IsOver) :
    t.get? (place ++ [job.name]) = t₀.get? (place ++ [job.name]) := by
  have hchanged := h.changed
  cases phase with
  | creating => exact congrFun hchanged _
  | done ending => exact absurd ⟨ending, rfl⟩ hphase
  | writing | closing | replacing | removing | abandoning =>
    exact hchanged.2 _ (h.isIn.entry_ne hjob rfl)

section Underway

variable (hlocate : t₀.locate cwd job.directory = .ok place)
  (hplace : t₀.get? place = some .directory) (hjob : ¬ IsTemporaryName job.name)

include hlocate hplace hjob

theorem Underway.step (h : Underway place job t₀ t phase)
    (hremoves : phase.isRemoving = true → chance.fault = none) :
    Underway place job t₀ (step cwd job chance t phase).1 (step cwd job chance t phase).2 := by
  have hmoved :=
    moved (FileTree.locate_eq h.directories hlocate) (h.directories _ hplace) h.isIn chance
  have hgone : ∀ temporary e, phase = .removing temporary e →
      (Storing.step cwd job chance t phase).1.get? temporary = none := by
    rintro temporary e rfl
    obtain ⟨name, rfl, -⟩ := h.isIn temporary rfl
    simp only [Storing.step, hremoves rfl]
    rw [FileTree.get?_erase (by simp), Function.update_self]
  refine ⟨fun q hq => ?_, hmoved.isIn h.isIn, hmoved.holds h.holds, ?_⟩
  · exact hmoved.hasDirectoriesOf h.holds q (h.directories q hq)
  · exact hmoved.hasChanged hjob h.isIn h.holds hgone h.changed

theorem Underway.steps (h : Underway place job t₀ t phase)
    (hremoves : Removes cwd job chances t phase) :
    Underway place job t₀ (steps cwd job chances t phase).1 (steps cwd job chances t phase).2 := by
  induction chances generalizing t phase with
  | nil => exact h
  | cons chance rest ih =>
    obtain ⟨hchance, hrest⟩ := hremoves
    exact ih (h.step hlocate hplace hjob hchance) hrest

/-- A store fails only if a step is made to fail, or a directory is in the place of the entry. -/
theorem Underway.not_hasFailed_steps_iff (h : Underway place job t₀ t phase)
    (htarget : ∀ content, job.content = some content →
      t₀.get? (place ++ [job.name]) ≠ some .directory) (hphase : ¬ phase.HasFailed) :
    ¬ (Storing.steps cwd job chances t phase).2.HasFailed ↔
      NothingFails cwd job chances t phase := by
  induction chances generalizing t phase with
  | nil => exact iff_of_true hphase trivial
  | cons chance rest ih =>
    by_cases hchance : phase.IsOver ∨ chance.fault = none
    · have hnext : ¬ (Storing.step cwd job chance t phase).2.HasFailed := by
        by_cases hover : phase.IsOver
        · obtain ⟨e, rfl⟩ := hover
          exact hphase
        · have hfault := hchance.resolve_left hover
          refine not_hasFailed_step (FileTree.locate_eq h.directories hlocate)
            (h.directories _ hplace) h.isIn ?_ hfault hphase
          rintro temporary rfl
          obtain ⟨whole, -, hwhole⟩ := h.holds
          rw [h.get?_entry hjob hover]
          exact htarget whole hwhole
      have hremoves : phase.isRemoving = true → chance.fault = none := by
        intro hremoving
        cases phase with
        | removing => exact absurd trivial hphase
        | creating | writing | closing | replacing | abandoning | done =>
          exact absurd hremoving nofun
      have hrest := ih (h.step hlocate hplace hjob hremoves) hnext
      exact ⟨fun hsteps => ⟨hchance, hrest.mp hsteps⟩, fun hfails => hrest.mpr hfails.2⟩
    · obtain ⟨hover, hfault⟩ := not_or.mp hchance
      obtain ⟨e, he⟩ := Option.ne_none_iff_exists'.mp hfault
      have hfailed := hasFailed_steps cwd job rest (Storing.step cwd job chance t phase).1
        (hasFailed_of_fault he hover cwd job t)
      exact iff_of_false (fun hnot => hnot hfailed) fun hfails => hchance hfails.1

end Underway

/-! ### The end of a store -/

/-- How many steps a store takes at most from a phase on. -/
def Phase.remaining (job : Job) : Phase → Nat
  | .creating => (job.content.getD []).length + 5
  | .writing _ rest => rest.length + 4
  | .closing _ => 3
  | .replacing _ => 2
  | .abandoning _ => 2
  | .removing _ _ => 1
  | .done _ => 0

/-- Every step brings a store nearer to its end, as long as to write is not to write nothing. -/
theorem remaining_step (cwd : List String) (job : Job) (t : FileTree) (phase : Phase)
    (hwrites : chance.amount ≠ some 0) :
    (step cwd job chance t phase).2.remaining job ≤ phase.remaining job - 1 := by
  cases phase with
  | creating =>
    rw [step]
    split
    · simp [Phase.remaining]
    · simp [Phase.remaining]
    · cases hcontent : job.content <;> simp [Phase.remaining, hcontent]
  | writing temporary rest =>
    rw [step]
    split
    · simp [Phase.remaining]
    · have hleft : (rest.drop (chance.amount.getD rest.length)).length ≤ rest.length - 1 := by
        rw [List.length_drop]
        cases hamount : chance.amount with
        | none => simp
        | some k =>
          have hk : k ≠ 0 := fun hzero => hwrites (hzero ▸ hamount)
          rw [Option.getD_some]
          omega
      dsimp only
      split
      · simp [Phase.remaining]
      · next hsome =>
        rw [List.isEmpty_iff_length_eq_zero] at hsome
        simp only [Phase.remaining]
        omega
  | closing temporary =>
    rw [step]
    split
    · simp [Phase.remaining]
    · simp [Phase.remaining]
  | replacing temporary =>
    rw [step]
    split
    · simp [Phase.remaining]
    · simp [Phase.remaining]
    · simp [Phase.remaining]
  | removing temporary e =>
    rw [step]
    split
    · simp [Phase.remaining]
    · simp [Phase.remaining]
  | abandoning temporary =>
    rw [step]
    split
    · simp [Phase.remaining]
    · simp [Phase.remaining]
  | done ending => simp [step, Phase.remaining]

theorem isOver_steps (hwrites : ∀ chance ∈ chances, chance.amount ≠ some 0)
    (henough : phase.remaining job ≤ chances.length) (cwd : List String) (t : FileTree) :
    (steps cwd job chances t phase).2.IsOver := by
  induction chances generalizing t phase with
  | nil =>
    cases phase with
    | done ending => exact ⟨ending, rfl⟩
    | creating | writing | closing | replacing | removing | abandoning =>
      exact absurd henough (by simp [Phase.remaining])
  | cons chance rest ih =>
    obtain ⟨hchance, hrest⟩ := List.forall_mem_cons.mp hwrites
    have hstep := remaining_step cwd job t phase hchance
    have hless : (step cwd job chance t phase).2.remaining job ≤ rest.length := by
      rw [List.length_cons] at henough
      omega
    exact ih hrest hless _

/-- The files let a store have its temporary file: the directory is there. -/
structure Opens (cwd : List String) (job : Job) (t : FileTree) (place : List String) : Prop where
  located : t.locate cwd job.directory = .ok place
  directory : t.get? place = some .directory

/-- The files let a store put its entry in its place: the directory is there, and no directory is in
that place. -/
structure Admits (cwd : List String) (job : Job) (t : FileTree) (place : List String) : Prop
    extends Opens cwd job t place where
  entry : t.get? (place ++ [job.name]) ≠ some .directory

/-- A store that gets nowhere near its directory fails and changes nothing. -/
theorem steps_of_not_opens (h : ¬ ∃ place, Opens cwd job t place) (chance : Chance)
    (rest : List Chance) :
    ∃ e, steps cwd job (chance :: rest) t .creating = (t, .done (.failed e)) := by
  cases hchild : t.locate cwd (job.directory.child "x") with
  | error problem =>
    exact ⟨_, steps_of_not_created (create_of_not_located hchild) chance rest⟩
  | ok q =>
    obtain ⟨place, hlocate, hplace, -⟩ :=
      FileTree.exists_of_locate_append_singleton (p := job.directory) (by decide) hchild
    exact absurd ⟨place, hlocate, hplace⟩ h

/-- What has become of the files when a store has ended in this way: it has put its content in the
place of the entry, or left the files as they were, or left an empty temporary file. -/
def Ending.Leaves (cwd : List String) (job : Job) (t t' : FileTree) : Ending → Prop
  | .stored => ∃ place, ∃ content : List UInt8, job.content = some content ∧
      Admits cwd job t place ∧
      t'.get? = Function.update t.get? (place ++ [job.name]) (some (.file ⟨content.toArray⟩))
  | .failed _ => t'.get? = t.get?
  | .abandoned => ∃ place name, job.content = none ∧ Opens cwd job t place ∧ IsTemporaryName name ∧
      t.get? (place ++ [name]) = none ∧
        t'.get? = Function.update t.get? (place ++ [name]) (some (.file ⟨#[]⟩))

/-- A store into a directory that is there leaves the files as its ending says. -/
theorem leaves_of_opens (hopens : Opens cwd job t place) (hjob : ¬ IsTemporaryName job.name)
    (hremoves : Removes cwd job chances t .creating) {ending : Ending}
    (hending : (steps cwd job chances t .creating).2 = .done ending) :
    ending.Leaves cwd job t (steps cwd job chances t .creating).1 := by
  have hchanged := ((underway_creating place job t).steps hopens.located hopens.directory hjob
    hremoves).changed
  rw [hending] at hchanged
  cases ending with
  | stored =>
    obtain ⟨content, hcontent, htarget, hget⟩ := hchanged
    exact ⟨place, content, hcontent, ⟨hopens, htarget⟩, hget⟩
  | failed e => exact hchanged
  | abandoned =>
    obtain ⟨hnone, name, hname, hfree, hget⟩ := hchanged
    exact ⟨place, name, hnone, hopens, hname, hfree, hget⟩

/-- A store comes to its end, and leaves the files as that end says.  It fails unless no step is
made to fail and the files admit it; without a content they need not admit the entry. -/
theorem steps_all_or_nothing (hjob : ¬ IsTemporaryName job.name)
    (hwrites : ∀ chance ∈ chances, chance.amount ≠ some 0)
    (henough : (job.content.getD []).length + 5 ≤ chances.length)
    (hremoves : Removes cwd job chances t .creating) :
    ∃ ending, (steps cwd job chances t .creating).2 = .done ending ∧
      ending.Leaves cwd job t (steps cwd job chances t .creating).1 ∧
      ((∀ e, ending ≠ .failed e) ↔ NothingFails cwd job chances t .creating ∧
        ∃ place, Opens cwd job t place ∧
          ∀ content, job.content = some content → Admits cwd job t place) := by
  have hremaining : Phase.creating.remaining job ≤ chances.length := henough
  obtain ⟨ending, hending⟩ := isOver_steps hwrites hremaining cwd t
  refine ⟨ending, hending, ?_⟩
  by_cases hopens : ∃ place, Opens cwd job t place
  · obtain ⟨place, hopens⟩ := hopens
    have hleaves := leaves_of_opens hopens hjob hremoves hending
    have hstart := underway_creating place job t
    have hiff (htarget : ∀ content, job.content = some content →
          t.get? (place ++ [job.name]) ≠ some .directory) :
        ¬ (steps cwd job chances t .creating).2.HasFailed ↔
          NothingFails cwd job chances t .creating :=
      hstart.not_hasFailed_steps_iff hopens.located hopens.directory hjob htarget id
    refine ⟨hleaves, fun hgood => ?_, fun ⟨hfails, place', hopens', hadmits⟩ e he => ?_⟩
    · have hadmits : ∀ content, job.content = some content → Admits cwd job t place := by
        intro content hcontent
        cases ending with
        | failed e => exact absurd rfl (hgood e)
        | stored =>
          obtain ⟨place', -, -, hadmits, -⟩ := hleaves
          obtain rfl := Except.ok.inj (hopens.located.symm.trans hadmits.located)
          exact hadmits
        | abandoned =>
          obtain ⟨-, -, hnone, -⟩ := hleaves
          rw [hnone] at hcontent
          cases hcontent
      refine ⟨(hiff fun content hcontent => (hadmits content hcontent).entry).mp ?_, place, hopens,
        hadmits⟩
      rw [hending]
      cases ending with
      | failed e => exact absurd rfl (hgood e)
      | stored => exact id
      | abandoned => exact id
    · obtain rfl := Except.ok.inj (hopens.located.symm.trans hopens'.located)
      refine (hiff fun content hcontent => (hadmits content hcontent).entry).mpr hfails ?_
      rw [hending, he]
      trivial
  · cases chances with
    | nil => exact absurd henough (by simp)
    | cons chance rest =>
      obtain ⟨e, hsteps⟩ := steps_of_not_opens hopens chance rest
      rw [hsteps] at hending ⊢
      obtain rfl := Phase.done.inj hending
      exact ⟨rfl, iff_of_false (fun h => h e rfl) fun ⟨_, place, h, _⟩ => hopens ⟨place, h⟩⟩

end Storing

namespace Cache

variable {c : Cache} {d : Path} {m : ModuleSpec} {key : String} {answer : ApiSpec} {w : Workspace}
  {chances : List Storing.Chance}

/-- Lookups see the files and nothing else of a workspace. -/
theorem lookup_fst_congr {w' : Workspace} (hcwd : w'.cwd = w.cwd)
    (hget : w'.tree.get? = w.tree.get?)
    (c : Cache) (m : ModuleSpec) : (c.lookup m w').1 = (c.lookup m w).1 := by
  rcases lookup_cases c m with hunused | hlacks | ⟨d, key, henabled, hd, hkey⟩
  · rw [lookup_of_not_isUsed hunused, lookup_of_not_isUsed hunused]
  · rw [lookup_of_lacksKey hlacks, lookup_of_lacksKey hlacks]
  · rw [lookup_of_key henabled hd hkey, lookup_of_key henabled hd hkey]
    simp only [FileTree.readText, FileTree.read_congr hget, hcwd]

/-- Lookups do not see temporary files. -/
theorem lookup_fst_of_temporary {place : List String} {name : String} {tree : FileTree}
    {content : ByteArray} (henabled : c.enabled = true) (hd : c.directory = some d)
    (hlocate : w.tree.locate w.cwd d = .ok place) (hplace : w.tree.get? place = some .directory)
    (hname : Storing.IsTemporaryName name) (hfree : w.tree.get? (place ++ [name]) = none)
    (hget : tree.get? = Function.update w.tree.get? (place ++ [name]) (some (.file content)))
    (m : ModuleSpec) : (c.lookup m { w with tree }).1 = (c.lookup m w).1 := by
  cases hkey : m.contentKey with
  | none =>
    have hlacks : c.LacksKey m := ⟨⟨henabled, d, hd⟩, hkey⟩
    rw [lookup_of_lacksKey hlacks, lookup_of_lacksKey hlacks]
  | some key =>
    have hkeeps : tree.HasDirectoriesOf w.tree :=
      FileTree.hasDirectoriesOf_update hget (by simp [hfree])
    have hlocate' : tree.locate w.cwd d = .ok place := FileTree.locate_eq hkeeps hlocate
    have hne : place ++ [entryName key] ≠ place ++ [name] := by
      intro he
      exact hname.ne_entryName (isKey_of_contentKey hkey)
        (List.singleton_inj.mp (List.append_cancel_left he)).symm
    rw [lookup_fst_of_located henabled hd hlocate hplace hkey,
      lookup_fst_of_located henabled hd hlocate' (hkeeps _ hplace) hkey]
    dsimp only
    rw [hget, Function.update_of_ne hne]

theorem storeUnder_of_steps {tree : FileTree} {ending : Storing.Ending}
    (henabled : c.enabled = true) (hd : c.directory = some d) (hkey : m.contentKey = some key)
    (hsteps : Storing.steps w.cwd (job d key answer) chances w.tree .creating =
      (tree, .done ending)) :
    c.storeUnder chances m answer w = settle key w (tree, ending) := by
  rw [storeUnder_of_key henabled hd hkey]
  simp only [Storing.run, hsteps]

/-- How a store under a key ends, in what the files admit, and what it leaves. -/
structure StoreEnds (c : Cache) (d : Path) (chances : List Storing.Chance) (m : ModuleSpec)
    (key : String) (answer : ApiSpec) (w : Workspace) (ending : Storing.Ending) : Prop where
  ends : (Storing.steps w.cwd (job d key answer) chances w.tree .creating).2 = .done ending
  /-- Unless a step is made to fail, it is the directory that is missing, or the place of the entry
  that is taken; nothing takes it from an answer that is not written. -/
  fails : (∀ e, ending ≠ .failed e) ↔
    Storing.NothingFails w.cwd (job d key answer) chances w.tree .creating ∧
      ∃ place, Storing.Opens w.cwd (job d key answer) w.tree place ∧
        (answer.prettyText ≠ none → Storing.Admits w.cwd (job d key answer) w.tree place)
  /-- The whole answer is in the place of the entry, and nothing else has changed. -/
  stored : ending = .stored → ∃ place text tree, answer.prettyText = some text ∧
    Storing.Admits w.cwd (job d key answer) w.tree place ∧
    c.storeUnder chances m answer w = (.ok (), { w with tree }) ∧
    tree.get? =
      Function.update w.tree.get? (place ++ [entryName key]) (some (.file (encodeText text)))
  /-- All files are as they were, so lookups do not notice, and the failure is written down. -/
  failed : ∀ e, ending = .failed e → ∃ tree,
    c.storeUnder chances m answer w = (.ok (), ({ w with tree }).record
      ⟨.warning, "Could not write cache entry " ++ entryName key ++ ": " ++ e.text⟩) ∧
    tree.get? = w.tree.get? ∧
    ∀ other, (c.lookup other (c.storeUnder chances m answer w).2).1 = (c.lookup other w).1
  /-- The answer cannot be written.  The store fails, and an empty temporary file is left, which
  lookups do not notice. -/
  abandoned : ending = .abandoned → ∃ place name tree, answer.prettyText = none ∧
    Storing.Opens w.cwd (job d key answer) w.tree place ∧ Storing.IsTemporaryName name ∧
    w.tree.get? (place ++ [name]) = none ∧
    c.storeUnder chances m answer w = (.error (.badValue .tooLongToWrite), { w with tree }) ∧
    tree.get? = Function.update w.tree.get? (place ++ [name]) (some (.file ⟨#[]⟩)) ∧
    ∀ other, (c.lookup other (c.storeUnder chances m answer w).2).1 = (c.lookup other w).1

/-- Whatever step of a store fails, the store comes to its end, and stores the whole answer or
leaves the files as they were; the temporary file must only not be kept from being removed.  It does
not return where the chunk has no key, in which case nothing is changed, or where the answer cannot
be written, in which case an empty temporary file stays. -/
theorem store_all_or_nothing (henabled : c.enabled = true) (hd : c.directory = some d)
    (hwrites : ∀ chance ∈ chances, chance.amount ≠ some 0)
    (henough : ((bytesOf answer).getD []).length + 5 ≤ chances.length)
    (hremoves : ∀ key, m.contentKey = some key →
      Storing.Removes w.cwd (job d key answer) chances w.tree .creating) :
    (m.contentKey = none →
      c.storeUnder chances m answer w = (.error (.badValue .tooLongToWrite), w)) ∧
    ∀ key, m.contentKey = some key → ∃ ending, StoreEnds c d chances m key answer w ending := by
  refine ⟨fun hnone => storeUnder_of_lacksKey ⟨⟨henabled, d, hd⟩, hnone⟩ _ _ _, fun key hkey => ?_⟩
  have hjob : ¬ Storing.IsTemporaryName (job d key answer).name :=
    not_isTemporaryName_entryName (isKey_of_contentKey hkey)
  obtain ⟨ending, hending, hleaves, hiff⟩ :=
    Storing.steps_all_or_nothing hjob hwrites henough (hremoves key hkey)
  obtain ⟨tree, hsteps⟩ : ∃ tree, Storing.steps w.cwd (job d key answer) chances w.tree .creating =
      (tree, .done ending) := ⟨_, Prod.ext rfl hending⟩
  have hstore := storeUnder_of_steps henabled hd hkey hsteps
  rw [hsteps] at hleaves
  have htext : answer.prettyText ≠ none ↔ ∃ content, (job d key answer).content = some content := by
    rw [← Option.ne_none_iff_exists']
    exact not_congr Option.map_eq_none_iff.symm
  refine ⟨ending, hending, ?_, ?_, ?_, ?_⟩
  · rw [hiff]
    simp only [htext, forall_exists_index]
  · rintro rfl
    obtain ⟨place, bytes, hbytes, hadmits, hget⟩ := hleaves
    obtain ⟨text, htext, rfl⟩ := bytesOf_eq_some_iff.mp hbytes
    rw [byteArray_of_toList] at hget
    exact ⟨place, text, tree, htext, hadmits, hstore, hget⟩
  · rintro e rfl
    have hget : tree.get? = w.tree.get? := hleaves
    refine ⟨tree, hstore, hget, fun other => ?_⟩
    rw [hstore]
    apply lookup_fst_congr
    · rfl
    · exact hget
  · rintro rfl
    obtain ⟨place, name, hnone, hopens, hname, hfree, hget⟩ := hleaves
    refine ⟨place, name, tree, Option.map_eq_none_iff.mp hnone, hopens, hname, hfree, hstore, hget,
      fun other => ?_⟩
    rw [hstore]
    exact lookup_fst_of_temporary henabled hd hopens.located hopens.directory hname hfree hget other

/-! ### A store that is cut short -/

/-- A directory with an entry for a module. -/
def keptWorkspace : Workspace where
  tree.entries := [
    (["cache"], .directory),
    (["cache", entryName unansweredKey],
      .file (encodeText (ApiSpec.couponApi.prettyText.getD "")))]

def cannotWrite : FileError := ⟨.nameTooLong, "/cache", none⟩

/-- After the first byte nothing more can be written. -/
def cutShort : List Storing.Chance :=
  {} :: { amount := some 1 } :: { fault := some cannotWrite } :: List.replicate 50 {}

def newAnswer : ApiSpec := { models := [], routes := [] }

/-- The store fails with a byte of the new answer in its temporary file, and lookups do not
notice. -/
theorem store_all_or_nothing_cutShort :
    (Storing.steps [] (job (.ofString "cache") unansweredKey newAnswer) cutShort keptWorkspace.tree
      .creating).2 = .done (.failed cannotWrite) ∧
    (tornCache.lookup unansweredModule
        (tornCache.storeUnder cutShort unansweredModule newAnswer keptWorkspace).2).1 =
      (tornCache.lookup unansweredModule keptWorkspace).1 := by
  have hwrites : ∀ chance ∈ cutShort, chance.amount ≠ some 0 := by decide
  have henough : ((bytesOf newAnswer).getD []).length + 5 ≤ cutShort.length := by decide +kernel
  have hkey := contentKey_unansweredModule
  have hremoves : ∀ key, unansweredModule.contentKey = some key → Storing.Removes []
      (job (.ofString "cache") key newAnswer) cutShort keptWorkspace.tree .creating := by
    intro key hkey'
    obtain rfl := Option.some.inj (hkey.symm.trans hkey')
    unfold Storing.Removes
    decide +kernel
  have hfails : (Storing.steps [] (job (.ofString "cache") unansweredKey newAnswer) cutShort
      keptWorkspace.tree .creating).2 = .done (.failed cannotWrite) := by decide +kernel
  obtain ⟨ending, hends⟩ :=
    (store_all_or_nothing (c := tornCache) (w := keptWorkspace) rfl rfl hwrites henough hremoves).2
      unansweredKey hkey
  obtain rfl := Storing.Phase.done.inj (hends.ends.symm.trans hfails)
  obtain ⟨-, -, -, hlookup⟩ := hends.failed cannotWrite rfl
  exact ⟨hfails, hlookup unansweredModule⟩

/-! ### An answer that cannot be written -/

/-- An answer of one route with this status. -/
def pingAnswer (status : Int) : ApiSpec where
  models := []
  routes := [{ path := "/ping", method := "GET", statusCode := some status }]

theorem prettyText_pingAnswer {status : Int} (h : (Scalar.int status).isLongNumber = true) :
    (pingAnswer status).prettyText = none := by
  refine Json.render_eq_none_iff.mpr ?_
  simp [ApiSpec.toValue, ApiRoute.toValue, pingAnswer, Value.hasLongNumber_object,
    Value.hasLongNumber_list, Value.optional, h]

/-- Without a text a store ends the run, and leaves its temporary file, though no step fails. -/
theorem store_of_no_text {answer : ApiSpec} (h : answer.prettyText = none) :
    ∃ name, Storing.IsTemporaryName name ∧ keptWorkspace.tree.get? ["cache", name] = none ∧
      (tornCache.store unansweredModule answer keptWorkspace).1 =
        .error (.badValue .tooLongToWrite) ∧
      (tornCache.store unansweredModule answer keptWorkspace).2.tree.get? ["cache", name] =
        some (.file ⟨#[]⟩) := by
  have hcontent : (job (.ofString "cache") unansweredKey answer).content = none :=
    Option.map_eq_none_iff.mpr h
  have hlocate : keptWorkspace.tree.locate keptWorkspace.cwd
      (job (.ofString "cache") unansweredKey answer).directory = .ok ["cache"] := by
    change keptWorkspace.tree.locate keptWorkspace.cwd (.ofString "cache") = .ok ["cache"]
    decide +kernel
  obtain ⟨tree, name, hrun, hname, hfree, hget⟩ :=
    Storing.run_of_no_content hlocate rfl hcontent
  have hstore : tornCache.store unansweredModule answer keptWorkspace =
      (.error (.badValue .tooLongToWrite), { keptWorkspace with tree }) := by
    rw [store, storeUnder_of_key rfl rfl contentKey_unansweredModule, hrun, settle]
  refine ⟨name, hname, hfree, ?_, ?_⟩
  · rw [hstore]
  · rw [hstore]
    dsimp only
    rw [hget]
    exact Function.update_self ..

theorem store_longAnswer :
    ∃ name, Storing.IsTemporaryName name ∧ keptWorkspace.tree.get? ["cache", name] = none ∧
      (tornCache.store unansweredModule (pingAnswer Scalar.longNumber) keptWorkspace).1 =
        .error (.badValue .tooLongToWrite) ∧
      (tornCache.store unansweredModule (pingAnswer Scalar.longNumber)
          keptWorkspace).2.tree.get? ["cache", name] = some (.file ⟨#[]⟩) :=
  store_of_no_text (prettyText_pingAnswer Scalar.isLongNumber_longNumber)

end Cache

end ServiceMigration
