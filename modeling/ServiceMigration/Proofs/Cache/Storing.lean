import Mathlib.Data.List.Nodup
import ServiceMigration.Cache.Storing
import ServiceMigration.Proofs.Cache.Entry
import ServiceMigration.Proofs.Files.Content
/-!
# What a step of a store can do

A step of a store is seen here as a relation between trees, taken as functions of places
(`Storing.Moved`); every property of stores is derived from its rules.  A step changes the temporary
file of its own store, or lets that file take the name of the entry, and directories stay where they
are (`Moved.hasDirectoriesOf`).  A store that nothing happens to comes down to one update
(`Storing.run_spec`).
-/

namespace ServiceMigration

/-! ### Temporary names -/

namespace Storing

/-- A name as temporary files have it: a dot, something, and an ending. -/
def IsTemporaryName (name : String) : Prop :=
  ∃ middle, name = String.ofList ('.' :: (middle ++ ".tmp".toList))

theorem isTemporaryName_temporaryName (n : Nat) : IsTemporaryName (temporaryName n) := ⟨_, rfl⟩

theorem IsTemporaryName.ne_entryName {name key : String} (h : IsTemporaryName name)
    (hkey : Cache.IsKey key) : name ≠ Cache.entryName key := by
  obtain ⟨middle, rfl⟩ := h
  obtain ⟨text, rfl⟩ := hkey
  intro he
  have hdot : '.' ∈ (Cache.entryName (Digest.sha256Hex text)).toList.take 1 := by
    rw [← he]
    simp
  rw [Cache.entryName, String.toList_append, List.take_append_of_le_length] at hdot
  · exact absurd (Digest.mem_hexDigits_of_mem_sha256Hex (List.mem_of_mem_take hdot)) (by decide)
  · rw [Digest.length_sha256Hex]
    decide

theorem temporaryName_injective : Function.Injective temporaryName := by
  intro n k h
  have hchars := String.ofList_injective h
  have hhex := List.append_cancel_right (List.cons.inj hchars).2
  rw [← Text.hexValue_hex 8 n, hhex, Text.hexValue_hex]

/-- There are more temporary names than names in use. -/
theorem freshName_spec (t : FileTree) (place : List String) :
    IsTemporaryName (freshName t place) ∧ t.get? (place ++ [freshName t place]) = none := by
  unfold freshName
  simp only
  split
  · next n hfind =>
    refine ⟨isTemporaryName_temporaryName n, ?_⟩
    have hfree : temporaryName n ∉ t.namesIn place := by simpa using List.find?_some hfind
    rw [Option.eq_none_iff_forall_ne_some]
    intro e he
    exact hfree (FileTree.mem_namesIn he)
  · next hfind =>
    rw [List.find?_eq_none] at hfind
    have hsubset :
        (List.range ((t.namesIn place).length + 1)).map temporaryName ⊆ t.namesIn place := by
      intro name hname
      obtain ⟨n, hn, rfl⟩ := List.mem_map.mp hname
      simpa using hfind n hn
    have hnodup :=
      (List.nodup_range (n := (t.namesIn place).length + 1)).map temporaryName_injective
    have hlength := (hnodup.subperm hsubset).length_le
    rw [List.length_map, List.length_range] at hlength
    omega

/-! ### Steps -/

/-- The temporary file of a store, where there is one. -/
def Phase.temporary? : Phase → Option (List String)
  | .writing temporary _ | .closing temporary | .replacing temporary | .removing temporary _
  | .abandoning temporary => some temporary
  | .creating | .done _ => none

/-- The phase of a store that has got its temporary file. -/
def Job.afterCreating (job : Job) (temporary : List String) : Phase :=
  match job.content with
  | some content => .writing temporary content
  | none => .abandoning temporary

@[simp] theorem temporary?_afterCreating (job : Job) (temporary : List String) :
    (job.afterCreating temporary).temporary? = some temporary := by
  unfold Job.afterCreating
  split <;> rfl

/-- What can become of a store into a directory in a step, with trees as functions of places. -/
inductive Moved (place : List String) (job : Job) : FileTree → Phase → FileTree → Phase → Prop where
  | created {t t' : FileTree} {name : String} (hname : IsTemporaryName name)
      (hfree : t.get? (place ++ [name]) = none)
      (hget : t'.get? = Function.update t.get? (place ++ [name]) (some (.file ⟨#[]⟩))) :
      Moved place job t .creating t' (job.afterCreating (place ++ [name]))
  | notCreated {t : FileTree} (e : FileError) : Moved place job t .creating t (.done (.failed e))
  | wrote {t t' : FileTree} {temporary : List String} {rest : List UInt8} (k : Nat)
      (hget : t'.get? = Function.update t.get? temporary
        (some (.file ⟨(contentAt t temporary ++ rest.take k).toArray⟩))) :
      Moved place job t (.writing temporary rest) t'
        (if (rest.drop k).isEmpty then .closing temporary else .writing temporary (rest.drop k))
  | closed {t : FileTree} {temporary : List String} :
      Moved place job t (.closing temporary) t (.replacing temporary)
  | replaced {t t' : FileTree} {temporary : List String}
      (htarget : t.get? (place ++ [job.name]) ≠ some .directory)
      (hget : t'.get? = Function.update
        (Function.update t.get? (place ++ [job.name])
          (some (.file ⟨(contentAt t temporary).toArray⟩)))
        temporary none) :
      Moved place job t (.replacing temporary) t' (.done .stored)
  | failed {t : FileTree} {phase : Phase} {temporary : List String} (e : FileError)
      (hphase : phase.temporary? = some temporary) :
        Moved place job t phase t (.removing temporary e)
  | removed {t t' : FileTree} {temporary : List String} {e : FileError}
      (hget : t'.get? = Function.update t.get? temporary none) :
      Moved place job t (.removing temporary e) t' (.done (.failed e))
  | left {t : FileTree} {temporary : List String} {e : FileError} :
      Moved place job t (.removing temporary e) t (.done (.failed e))
  | abandoned {t : FileTree} {temporary : List String} :
      Moved place job t (.abandoning temporary) t (.done .abandoned)
  | rested {t : FileTree} {ending : Ending} : Moved place job t (.done ending) t (.done ending)

section Step

variable {cwd place : List String} {job : Job} {t t' : FileTree} {phase phase' : Phase}

/-- The temporary file of a store into a directory is one of that directory. -/
def Phase.IsIn (place : List String) (phase : Phase) : Prop :=
  ∀ temporary, phase.temporary? = some temporary →
    ∃ name, temporary = place ++ [name] ∧ IsTemporaryName name

theorem create_eq (hlocate : t.locate cwd job.directory = .ok place)
    (hplace : t.get? place = some .directory) :
    create cwd job t =
      .ok (t.put (place ++ [freshName t place]) (.file ⟨#[]⟩), place ++ [freshName t place]) := by
  have hchild : t.locate cwd (job.directory.child "x") = .ok (place ++ ["x"]) :=
    FileTree.locate_append_singleton hlocate hplace (by decide) (by decide)
  simp only [create, hchild, List.dropLast_concat]

theorem replace_of_directory (cwd : List String) {name : String}
    (htarget : t.get? (place ++ [job.name]) = some .directory) :
    ∃ e, replace cwd job (place ++ [name]) t = .error e := by
  simp only [replace, List.dropLast_concat, htarget]
  exact ⟨_, rfl⟩

theorem replace_eq (cwd : List String) {name : String}
    (htarget : t.get? (place ++ [job.name]) ≠ some .directory) :
    ∃ t', replace cwd job (place ++ [name]) t = .ok t' ∧ t'.get? =
      Function.update (Function.update t.get? (place ++ [job.name])
        (some (.file ⟨(contentAt t (place ++ [name])).toArray⟩))) (place ++ [name]) none := by
  simp only [replace, List.dropLast_concat]
  refine ⟨_, rfl, ?_⟩
  rw [FileTree.get?_erase (by simp), FileTree.get?_put (by simp)]

/-- Whatever happens to a step, it does one of these. -/
theorem moved (hlocate : t.locate cwd job.directory = .ok place)
    (hplace : t.get? place = some .directory) (hphase : phase.IsIn place) (chance : Chance) :
    Moved place job t phase (step cwd job chance t phase).1 (step cwd job chance t phase).2 := by
  cases phase with
  | creating =>
    simp only [step, create_eq hlocate hplace]
    cases chance.fault with
    | some e => exact .notCreated e
    | none =>
      obtain ⟨hname, hfree⟩ := freshName_spec t place
      have hcreated : Moved place job t .creating
          (t.put (place ++ [freshName t place]) (.file ⟨#[]⟩))
          (job.afterCreating (place ++ [freshName t place])) :=
        .created hname hfree (FileTree.get?_put (by simp) _)
      unfold Job.afterCreating at hcreated
      cases hcontent : job.content with
      | none => simpa only [hcontent] using hcreated
      | some content => simpa only [hcontent] using hcreated
  | writing temporary rest =>
    obtain ⟨name, rfl, -⟩ := hphase temporary rfl
    simp only [step]
    cases chance.fault with
    | some e => exact .failed e rfl
    | none => exact .wrote _ (FileTree.get?_put (by simp) _)
  | closing temporary =>
    simp only [step]
    cases chance.fault with
    | some e => exact .failed e rfl
    | none => exact .closed
  | replacing temporary =>
    obtain ⟨name, rfl, -⟩ := hphase temporary rfl
    simp only [step]
    cases chance.fault with
    | some e => exact .failed e rfl
    | none =>
      by_cases htarget : t.get? (place ++ [job.name]) = some .directory
      · obtain ⟨e, herror⟩ := replace_of_directory cwd htarget
        rw [herror]
        exact .failed e rfl
      · obtain ⟨t', hok, hget⟩ := replace_eq cwd htarget
        rw [hok]
        exact .replaced htarget hget
  | removing temporary e =>
    obtain ⟨name, rfl, -⟩ := hphase temporary rfl
    simp only [step]
    cases chance.fault with
    | some _ => exact .left
    | none => exact .removed (FileTree.get?_erase (by simp))
  | abandoning temporary =>
    simp only [step]
    cases chance.fault with
    | some e => exact .failed e rfl
    | none => exact .abandoned
  | done e => exact .rested

end Step

/-! ### What steps keep -/

/-- How much of a content the temporary file of a store has. -/
def Phase.Holds (content : Option (List UInt8)) (t : FileTree) : Phase → Prop
  | .creating | .done _ => True
  | .writing temporary rest =>
    ∃ written : List UInt8, t.get? temporary = some (.file ⟨written.toArray⟩) ∧
      content = some (written ++ rest)
  | .closing temporary | .replacing temporary =>
    ∃ whole : List UInt8, t.get? temporary = some (.file ⟨whole.toArray⟩) ∧ content = some whole
  | .removing temporary _ => ∃ written, t.get? temporary = some (.file written)
  | .abandoning temporary => t.get? temporary = some (.file ⟨#[]⟩) ∧ content = none

theorem Phase.Holds.file {content : Option (List UInt8)} {t : FileTree} {phase : Phase}
    {temporary : List String} (h : phase.Holds content t)
    (hphase : phase.temporary? = some temporary) : ∃ written,
      t.get? temporary = some (.file written) := by
  cases phase with
  | creating | done => exact absurd hphase (by simp [temporary?])
  | writing | closing | replacing =>
    obtain rfl := Option.some.inj hphase
    obtain ⟨written, hget, -⟩ := h
    exact ⟨_, hget⟩
  | removing =>
    obtain rfl := Option.some.inj hphase
    exact h
  | abandoning =>
    obtain rfl := Option.some.inj hphase
    exact ⟨_, h.1⟩

/-- What a store holds depends on its temporary file alone. -/
theorem Phase.Holds.congr {content : Option (List UInt8)} {t t' : FileTree} {phase : Phase}
    (h : phase.Holds content t)
    (hget : ∀ temporary, phase.temporary? = some temporary → t'.get? temporary = t.get? temporary) :
    phase.Holds content t' := by
  cases phase with
  | creating | done => trivial
  | writing temporary _ | closing temporary | replacing temporary =>
    obtain ⟨written, hfile, hwritten⟩ := h
    exact ⟨written, (hget temporary rfl).trans hfile, hwritten⟩
  | removing temporary e =>
    obtain ⟨written, hfile⟩ := h
    exact ⟨written, (hget temporary rfl).trans hfile⟩
  | abandoning temporary => exact ⟨(hget temporary rfl).trans h.1, h.2⟩

theorem contentAt_of_file {t : FileTree} {q : List String} {written : List UInt8}
    (h : t.get? q = some (.file ⟨written.toArray⟩)) : contentAt t q = written := by
  rw [contentAt, h]
  exact byteArray_toList written

namespace Moved

variable {place : List String} {job : Job} {t t' : FileTree} {phase phase' : Phase}
  {temporary : List String}

theorem isIn (h : Moved place job t phase t' phase') (hphase : phase.IsIn place) :
    phase'.IsIn place := by
  cases h with
  | created hname =>
    intro temporary htemporary
    obtain rfl := Option.some.inj ((temporary?_afterCreating _ _).symm.trans htemporary)
    exact ⟨_, rfl, hname⟩
  | notCreated | replaced | removed | left | abandoned | rested => exact nofun
  | closed => exact hphase
  | wrote =>
    split
    · exact hphase
    · exact hphase
  | failed e htemporary =>
    intro other hother
    obtain rfl := Option.some.inj hother
    exact hphase _ htemporary

/-- A store keeps its temporary file, and a new one is where nothing was. -/
theorem temporary? (h : Moved place job t phase t' phase')
    (hphase : phase'.temporary? = some temporary) :
    phase.temporary? = some temporary ∨ t.get? temporary = none := by
  cases h with
  | created _ hfree =>
    obtain rfl := Option.some.inj ((temporary?_afterCreating _ _).symm.trans hphase)
    exact .inr hfree
  | notCreated | replaced | removed | left | abandoned | rested =>
    exact absurd hphase (by simp [Phase.temporary?])
  | closed => exact .inl hphase
  | wrote =>
    split at hphase
    · exact .inl hphase
    · exact .inl hphase
  | failed e htemporary => exact .inl (htemporary.trans hphase)

/-- Places other than that of the entry and that of the temporary file are left alone. -/
theorem get?_eq (h : Moved place job t phase t' phase') {q : List String}
    (hentry : q ≠ place ++ [job.name]) (hbefore : phase.temporary? ≠ some q)
    (hafter : phase'.temporary? ≠ some q) : t'.get? q = t.get? q := by
  cases h with
  | created _ _ hget =>
    have hne : q ≠ _ := fun he => hafter (he ▸ temporary?_afterCreating _ _)
    rw [hget, Function.update_of_ne hne]
  | wrote _ hget | removed hget =>
    have hne : q ≠ _ := fun he => hbefore (he ▸ rfl)
    rw [hget, Function.update_of_ne hne]
  | replaced _ hget =>
    have hne : q ≠ _ := fun he => hbefore (he ▸ rfl)
    rw [hget, Function.update_of_ne hne, Function.update_of_ne hentry]
  | notCreated | closed | failed | left | abandoned | rested => rfl

theorem hasDirectoriesOf (h : Moved place job t phase t' phase')
    (hholds : phase.Holds job.content t) :
    t'.HasDirectoriesOf t := by
  have hfile : ∀ {temporary}, phase.temporary? = some temporary →
      t.get? temporary ≠ some .directory := by
    intro temporary htemporary hdirectory
    obtain ⟨written, hget⟩ := hholds.file htemporary
    simp [hget] at hdirectory
  cases h with
  | created _ hfree hget => exact FileTree.hasDirectoriesOf_update hget (by simp [hfree])
  | wrote _ hget => exact FileTree.hasDirectoriesOf_update hget (hfile rfl)
  | removed hget => exact FileTree.hasDirectoriesOf_update hget (hfile rfl)
  | @replaced _ temporary htarget hget =>
    intro q hq
    have hnotEntry : q ≠ place ++ [job.name] := by
      rintro rfl
      exact htarget hq
    have hnotTemporary : q ≠ temporary := by
      rintro rfl
      exact hfile rfl hq
    rw [hget, Function.update_of_ne hnotTemporary, Function.update_of_ne hnotEntry, hq]
  | notCreated | closed | failed | left | abandoned | rested => exact fun _ hq => hq

/-- The temporary file has what has been written so far. -/
theorem holds (h : Moved place job t phase t' phase') (hholds : phase.Holds job.content t) :
    phase'.Holds job.content t' := by
  cases h with
  | created _ _ hget =>
    unfold Job.afterCreating
    split
    · next content hcontent => exact ⟨[], by rw [hget, Function.update_self], hcontent⟩
    · next hcontent => exact ⟨by rw [hget, Function.update_self], hcontent⟩
  | @wrote _ temporary rest k hget =>
    obtain ⟨written, hfile, hwritten⟩ := hholds
    rw [contentAt_of_file hfile] at hget
    have hnow : t'.get? temporary = some (.file ⟨(written ++ rest.take k).toArray⟩) := by
      rw [hget, Function.update_self]
    have hwhole : job.content = some ((written ++ rest.take k) ++ rest.drop k) := by
      rw [List.append_assoc, List.take_append_drop, hwritten]
    split
    · next hall =>
      rw [List.isEmpty_iff.mp hall, List.append_nil] at hwhole
      exact ⟨_, hnow, hwhole⟩
    · exact ⟨_, hnow, hwhole⟩
  | closed => exact hholds
  | failed e htemporary => exact hholds.file htemporary
  | notCreated | replaced | removed | left | abandoned | rested => trivial

/-- At the place of the entry there is what was there, or the complete content. -/
theorem get?_entry (h : Moved place job t phase t' phase') (hphase : phase.IsIn place)
    (hholds : phase.Holds job.content t) (hjob : ¬ IsTemporaryName job.name) :
    t'.get? (place ++ [job.name]) = t.get? (place ++ [job.name]) ∨ ∃ content : List UInt8,
      job.content = some content ∧
        t'.get? (place ++ [job.name]) = some (.file ⟨content.toArray⟩) := by
  have hne : ∀ {temporary}, phase.temporary? = some temporary →
      place ++ [job.name] ≠ temporary := by
    rintro temporary htemporary rfl
    obtain ⟨name, hname, htemp⟩ := hphase _ htemporary
    obtain rfl : job.name = name := by simpa using hname
    exact hjob htemp
  cases h with
  | @created _ name hname _ hget =>
    left
    have hother : place ++ [job.name] ≠ place ++ [name] := by
      intro he
      obtain rfl : job.name = name := by simpa using he
      exact hjob hname
    rw [hget, Function.update_of_ne hother]
  | wrote _ hget | removed hget =>
    left
    rw [hget, Function.update_of_ne (hne rfl)]
  | replaced _ hget =>
    obtain ⟨whole, hfile, hwhole⟩ := hholds
    refine .inr ⟨whole, hwhole, ?_⟩
    rw [hget, Function.update_of_ne (hne rfl), Function.update_self, contentAt_of_file hfile]
  | notCreated | closed | failed | left | abandoned | rested => exact .inl rfl

end Moved

/-! ### A store that nothing happens to -/

section Run

variable {cwd place : List String} {job : Job} {t : FileTree}

/-- Undisturbed, a store puts its content at the place of the entry, and no other place is
changed. -/
theorem run_spec {content : List UInt8} (hlocate : t.locate cwd job.directory = .ok place)
    (hplace : t.get? place = some .directory) (hjob : ¬ IsTemporaryName job.name)
    (htarget : t.get? (place ++ [job.name]) ≠ some .directory)
    (hcontent : job.content = some content) :
    ∃ t', run cwd job undisturbed t = (t', .stored) ∧ t'.get? =
      Function.update t.get? (place ++ [job.name]) (some (.file ⟨content.toArray⟩)) := by
  obtain ⟨hname, hfree⟩ := freshName_spec t place
  set temporary := place ++ [freshName t place] with htemporary
  have hne : place ++ [job.name] ≠ temporary := by
    intro he
    have hsame : job.name = freshName t place := by simpa [htemporary] using he
    exact hjob (hsame ▸ hname)
  set created := t.put temporary (.file ⟨#[]⟩) with hcreated
  have hgetCreated : created.get? = Function.update t.get? temporary (some (.file ⟨#[]⟩)) :=
    FileTree.get?_put (by simp [htemporary]) _
  have hempty : contentAt created temporary = [] :=
    contentAt_of_file (by rw [hgetCreated, Function.update_self])
  set written := append created temporary content with hwritten
  have hgetWritten : written.get? =
      Function.update t.get? temporary (some (.file ⟨content.toArray⟩)) := by
    rw [hwritten, append, hempty, List.nil_append, FileTree.get?_put (by simp [htemporary]),
      hgetCreated, Function.update_idem]
  have hwhole : contentAt written temporary = content :=
    contentAt_of_file (by rw [hgetWritten, Function.update_self])
  have htarget' : written.get? (place ++ [job.name]) ≠ some .directory := by
    rwa [hgetWritten, Function.update_of_ne hne]
  obtain ⟨t', hreplace, hget⟩ := replace_eq cwd htarget'
  rw [← htemporary] at hreplace
  refine ⟨t', ?_, ?_⟩
  · simp only [run, undisturbed, List.replicate, steps, step, create_eq hlocate hplace, hcontent,
      ← htemporary, ← hcreated, Option.getD_none, List.take_length, List.drop_length,
      List.isEmpty_nil, if_true, ← hwritten, hreplace]
  · rw [hget, ← htemporary, hwhole, hgetWritten]
    funext q
    by_cases hq : q = temporary
    · subst hq
      rw [Function.update_self, Function.update_of_ne hne.symm, htemporary, hfree]
    · rw [Function.update_of_ne hq]
      by_cases hentry : q = place ++ [job.name]
      · subst hentry
        rw [Function.update_self, Function.update_self]
      · rw [Function.update_of_ne hentry, Function.update_of_ne hentry, Function.update_of_ne hq]

/-- Undisturbed, a store without a content leaves an empty temporary file, and no other place is
changed. -/
theorem run_of_no_content (hlocate : t.locate cwd job.directory = .ok place)
    (hplace : t.get? place = some .directory) (hcontent : job.content = none) :
    ∃ t' name, run cwd job undisturbed t = (t', .abandoned) ∧ IsTemporaryName name ∧
      t.get? (place ++ [name]) = none ∧
        t'.get? = Function.update t.get? (place ++ [name]) (some (.file ⟨#[]⟩)) := by
  obtain ⟨hname, hfree⟩ := freshName_spec t place
  refine ⟨t.put (place ++ [freshName t place]) (.file ⟨#[]⟩), freshName t place, ?_, hname, hfree,
    FileTree.get?_put (by simp) _⟩
  simp only [run, undisturbed, List.replicate, steps, step, create_eq hlocate hplace, hcontent]

end Run

/-! ### Stores that are given up -/

/-- A store has turned out to have no content. -/
def Phase.GivesUp : Phase → Prop
  | .abandoning _ | .done .abandoned => True
  | .creating | .writing _ _ | .closing _ | .replacing _ | .removing _ _ | .done .stored
  | .done (.failed _) => False

variable {cwd : List String} {job : Job} {content : List UInt8} {phase : Phase}

theorem not_givesUp_step (hcontent : job.content = some content) (cwd : List String)
    (chance : Chance)
    (t : FileTree) (h : ¬ phase.GivesUp) : ¬ (step cwd job chance t phase).2.GivesUp := by
  cases phase with
  | creating =>
    rw [step]
    split
    · exact id
    · exact id
    · rw [hcontent]
      exact id
  | writing temporary rest =>
    rw [step]
    split
    · exact id
    · dsimp only
      split <;> exact id
  | closing temporary =>
    rw [step]
    split <;> exact id
  | replacing temporary =>
    rw [step]
    split <;> exact id
  | removing temporary e =>
    rw [step]
    split <;> exact id
  | abandoning => exact absurd trivial h
  | done => exact h

/-- A store that has a content is not given up. -/
theorem not_givesUp_steps (hcontent : job.content = some content) (cwd : List String)
    (chances : List Chance) (t : FileTree) (h : ¬ phase.GivesUp) :
    ¬ (steps cwd job chances t phase).2.GivesUp := by
  induction chances generalizing t phase with
  | nil => exact h
  | cons chance rest ih => exact ih _ (not_givesUp_step hcontent cwd chance t h)

theorem run_ne_abandoned (hcontent : job.content = some content) (cwd : List String)
    (chances : List Chance) (t : FileTree) : (run cwd job chances t).2 ≠ .abandoned := by
  have hgoes : ¬ (steps cwd job chances t .creating).2.GivesUp :=
    not_givesUp_steps hcontent cwd chances t id
  unfold run
  split
  · next t' ending hsteps =>
    rw [hsteps] at hgoes
    rintro rfl
    exact hgoes trivial
  · exact nofun

end Storing

/-! ### Stores of a cache -/

namespace Cache

/-- A store of a chunk with a key is a run of the steps of its job. -/
theorem storeUnder_of_key {c : Cache} {m : ModuleSpec} {d : Path} {key : String}
    (henabled : c.enabled = true) (hd : c.directory = some d) (hkey : m.contentKey = some key)
    (chances : List Storing.Chance) (answer : ApiSpec) (w : Workspace) :
    c.storeUnder chances m answer w =
      settle key w (Storing.run w.cwd (job d key answer) chances w.tree) := by
  simp only [storeUnder, henabled, hd, keyOf_of_contentKey hkey]

/-- A store that is not given up succeeds. -/
theorem settle_fst {key : String} {w : Workspace} {ended : FileTree × Storing.Ending}
    (h : ended.2 ≠ .abandoned) : (settle key w ended).1 = .ok () := by
  obtain ⟨tree, ending⟩ := ended
  cases ending with
  | stored | failed => rfl
  | abandoned => exact absurd rfl h

/-- Whatever its end, a store changes the files, and may write something down. -/
theorem settle_snd (key : String) (w : Workspace) (ended : FileTree × Storing.Ending) :
    (settle key w ended).2.tree = ended.1 ∧ (settle key w ended).2.cwd = w.cwd := by
  obtain ⟨tree, ending⟩ := ended
  cases ending <;> exact ⟨rfl, rfl⟩

theorem storeUnder_of_lacksKey {c : Cache} {m : ModuleSpec} (h : c.LacksKey m)
    (chances : List Storing.Chance) (answer : ApiSpec) (w : Workspace) :
    c.storeUnder chances m answer w = (.error (.badValue .tooLongToWrite), w) := by
  obtain ⟨⟨henabled, d, hd⟩, hkey⟩ := h
  simp only [storeUnder, henabled, hd, keyOf_of_none hkey]

theorem storeUnder_of_not_isUsed {c : Cache} (h : ¬ c.IsUsed) (chances : List Storing.Chance)
    (m : ModuleSpec) (answer : ApiSpec) (w : Workspace) :
    c.storeUnder chances m answer w = (.ok (), w) := by
  unfold storeUnder
  split
  · next d henabled hd => exact absurd ⟨henabled, d, hd⟩ h
  · rfl

/-- A store only fails without a key, or without a text to store. -/
theorem lacksKey_or_of_storeUnder_error {c : Cache} {chances : List Storing.Chance} {m : ModuleSpec}
    {answer : ApiSpec} {w : Workspace} {e : Failure}
    (h : (c.storeUnder chances m answer w).1 = .error e) :
    c.LacksKey m ∨ (c.IsUsed ∧ answer.prettyText = none) := by
  rcases lookup_cases c m with hunused | hlacks | ⟨d, key, henabled, hd, hkey⟩
  · rw [storeUnder_of_not_isUsed hunused] at h
    cases h
  · exact .inl hlacks
  · refine .inr ⟨⟨henabled, d, hd⟩, ?_⟩
    by_contra hsome
    obtain ⟨text, htext⟩ := Option.ne_none_iff_exists'.mp hsome
    have hcontent : (job d key answer).content = some (encodeText text).toList := by
      rw [job, bytesOf, htext]
      rfl
    have hends := Storing.run_ne_abandoned hcontent w.cwd chances w.tree
    rw [storeUnder_of_key henabled hd hkey, settle_fst hends] at h
    cases h

end Cache

end ServiceMigration
