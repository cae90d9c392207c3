import ServiceMigration.Files.Content
import ServiceMigration.Proofs.Files.Tree
/-!
# What changes of a tree leave

A change of a tree leaves what is at places that it has nothing to do with (`FileTree.ChangesOnly`),
or at least the files there, where it makes new directories too (`FileTree.Keeps`).  Directories are
never lost.  A way through directories leads to the place that its names spell
(`locate_eq_resolve`), so what is written in a directory is at a place that the path says.
-/

namespace ServiceMigration.FileTree

variable {t t' t'' : FileTree} {cwd place q : List String} {p : Path} {changed : List String → Prop}

/-! ### Ways -/

/-- Where a way leads is spelled by its names. -/
theorem walk_eq_follow {names : List String} (h : t.walk place names = .ok q) :
    q = Path.follow place names := by
  fun_induction walk t place names with
  | case1 => exact (Except.ok.inj h).symm
  | case2 place name hup =>
    rw [Path.follow, if_pos hup]
    exact (Except.ok.inj h).symm
  | case4 place name hup =>
    rw [Path.follow, if_neg hup]
    exact (Except.ok.inj h).symm
  | case5 place name rest _ hup ih =>
    rw [Path.follow, if_pos hup]
    exact ih h
  | case7 place name rest _ hup _ _ ih =>
    rw [Path.follow, if_neg hup]
    exact ih h
  | case3 | case6 | case8 | case9 => simp at h

theorem locate_eq_resolve (h : t.locate cwd p = .ok place) : place = p.resolve cwd :=
  walk_eq_follow h

/-- A place all of whose beginnings are directories. -/
def IsOpen (t : FileTree) (place : List String) : Prop :=
  ∀ q, q <+: place → t.get? q = some .directory

theorem isOpen_nil : t.IsOpen [] := by
  intro q hq
  rw [List.prefix_nil.mp hq]
  rfl

theorem IsOpen.dropLast (h : t.IsOpen place) : t.IsOpen place.dropLast :=
  fun q hq => h q (hq.trans place.dropLast_prefix)

theorem IsOpen.append_singleton (h : t.IsOpen place) {name : String}
    (hname : t.get? (place ++ [name]) = some .directory) : t.IsOpen (place ++ [name]) := by
  intro q hq
  rcases List.prefix_concat_iff.mp hq with rfl | hq
  · exact hname
  · exact h q hq

/-- A name leads from a directory to the one it is in, or to one that is in it. -/
inductive Enters (t : FileTree) (place : List String) : String → List String → Prop
  | up : t.Enters place ".." place.dropLast
  | down {name : String} (hup : name ≠ "..") (hshort : isTooLong name = false)
      (hget : t.get? (place ++ [name]) = some .directory) : t.Enters place name (place ++ [name])

section

variable {name : String} {next rest : List String}

theorem Enters.isOpen (h : t.Enters place name next) (hopen : t.IsOpen place) : t.IsOpen next := by
  cases h with
  | up => exact hopen.dropLast
  | down _ _ hget => exact hopen.append_singleton hget

/-- A single name is not looked up, so its way is another case than that of a name with more behind
it. -/
theorem Enters.walk_cons (h : t.Enters place name next) (hrest : t.walk next rest = .ok q) :
    t.walk place (name :: rest) = .ok q := by
  by_cases hnil : rest = []
  · subst hnil
    rw [walk] at hrest
    cases h with
    | up => exact hrest
    | down hup hshort _ => simpa [walk, hup, hshort] using hrest
  · rw [walk]
    · cases h with
      | up => exact hrest
      | down hup hshort hget => simpa [hup, hshort, hget] using hrest
    · exact hnil

theorem exists_enters (hrest : rest ≠ []) (h : t.walk place (name :: rest) = .ok q) :
    ∃ next, t.Enters place name next ∧ t.walk next rest = .ok q := by
  rw [walk] at h
  · split at h
    · next hup =>
      obtain rfl := beq_iff_eq.mp hup
      exact ⟨place.dropLast, .up, h⟩
    · next hup =>
      split at h
      · cases h
      · next hshort =>
        split at h
        · next hget =>
          exact ⟨place ++ [name], .down (by simpa using hup) (by simpa using hshort) hget, h⟩
        · cases h
        · cases h
  · exact hrest

/-- A way to a name goes through the directory that the name is in. -/
theorem exists_of_walk_append_singleton {names : List String} (hopen : t.IsOpen place)
    (hup : name ≠ "..") (h : t.walk place (names ++ [name]) = .ok q) :
    ∃ directory, t.walk place names = .ok directory ∧ t.IsOpen directory ∧
    q = directory ++ [name] := by
  induction names generalizing place with
  | nil =>
    rw [List.nil_append, walk, if_neg (by simpa using hup)] at h
    split at h
    · cases h
    · exact ⟨place, rfl, hopen, (Except.ok.inj h).symm⟩
  | cons first rest ih =>
    obtain ⟨next, henters, hwalk⟩ := exists_enters (by simp) h
    obtain ⟨directory, hrest, hdirectory, hq⟩ := ih (henters.isOpen hopen) hwalk
    exact ⟨directory, henters.walk_cons hrest, hdirectory, hq⟩

theorem exists_of_locate_append_singleton (hup : name ≠ "..")
    (h : t.locate cwd { p with parts := p.parts ++ [name] } = .ok q) :
    ∃ directory, t.locate cwd p = .ok directory ∧ t.get? directory = some .directory ∧
      q = directory ++ [name] := by
  rw [locate, fromTop_append_singleton] at h
  obtain ⟨directory, hwalk, hopen, hq⟩ := exists_of_walk_append_singleton isOpen_nil hup h
  exact ⟨directory, hwalk, hopen directory List.prefix_rfl, hq⟩

end

/-! ### Changing and keeping -/

/-- The top is a directory. -/
theorem ne_nil_of_not_directory (h : t.get? place ≠ some .directory) : place ≠ [] := by
  rintro rfl
  exact h rfl

/-- Directories stay, and so does whatever is at other places than these. -/
structure ChangesOnly (places : List String → Prop) (t t' : FileTree) : Prop where
  directories : t'.HasDirectoriesOf t
  elsewhere : ∀ q, ¬places q → t'.get? q = t.get? q

namespace ChangesOnly

variable {places places' : List String → Prop}

theorem refl (places : List String → Prop) (t : FileTree) : ChangesOnly places t t :=
  ⟨fun _ h => h, fun _ _ => rfl⟩

theorem trans (h : ChangesOnly places t t') (h' : ChangesOnly places t' t'') :
    ChangesOnly places t t'' where
  directories q hq := h'.directories q (h.directories q hq)
  elsewhere q hq := (h'.elsewhere q hq).trans (h.elsewhere q hq)

theorem mono (h : ChangesOnly places t t') (hsub : ∀ q, places q → places' q) :
    ChangesOnly places' t t' where
  directories := h.directories
  elsewhere q hq := h.elsewhere q fun hplace => hq (hsub q hplace)

theorem put (h : t.get? place ≠ some .directory) (e : FileEntry) :
    ChangesOnly (· = place) t (t.put place e) := by
  have hget := get?_put (t := t) (ne_nil_of_not_directory h) e
  refine ⟨hasDirectoriesOf_update hget h, fun q hne => ?_⟩
  rw [hget, Function.update_of_ne hne]

end ChangesOnly

/-- Directories stay, and so do files at places that are not among the changed ones. -/
structure Keeps (changed : List String → Prop) (t t' : FileTree) : Prop where
  directories : t'.HasDirectoriesOf t
  files : ∀ q content, ¬changed q → t.get? q = some (.file content) →
    t'.get? q = some (.file content)

theorem ChangesOnly.keeps (h : ChangesOnly changed t t') : Keeps changed t t' where
  directories := h.directories
  files q _ hq hget := (h.elsewhere q hq).trans hget

namespace Keeps

theorem refl (changed : List String → Prop) (t : FileTree) : Keeps changed t t :=
  (ChangesOnly.refl changed t).keeps

theorem trans (h : Keeps changed t t') (h' : Keeps changed t' t'') : Keeps changed t t'' where
  directories q hq := h'.directories q (h.directories q hq)
  files q content hq hget := h'.files q content hq (h.files q content hq hget)

theorem mono {changed' : List String → Prop} (h : Keeps changed t t')
    (hsub : ∀ q, changed q → changed' q) :
    Keeps changed' t t' where
  directories := h.directories
  files q content hq := h.files q content fun hchanged => hq (hsub q hchanged)

/-- Nothing of what is there is changed by putting something where nothing was. -/
theorem put_of_none (h : t.get? place = none) (e : FileEntry) :
    Keeps changed t (t.put place e) := by
  have hchanges : ChangesOnly (· = place) t (t.put place e) := .put (by simp [h]) e
  refine ⟨hchanges.directories, fun q content _ hq => ?_⟩
  have hne : q ≠ place := by
    rintro rfl
    rw [h] at hq
    exact absurd hq nofun
  exact (hchanges.elsewhere q hne).trans hq

end Keeps

/-! ### Directories and files -/

/-- A directory that was made is where its path leads, and nothing was there. -/
theorem makeDirectory_spec (h : t.makeDirectory cwd p = .ok t') :
    t.get? (p.resolve cwd) = none ∧ t' = t.put (p.resolve cwd) .directory := by
  unfold makeDirectory at h
  split at h
  · exact absurd h nofun
  · next place hplace =>
    obtain rfl := locate_eq_resolve hplace
    split at h
    · exact absurd h nofun
    · next hnone => exact ⟨hnone, (Except.ok.inj h).symm⟩

/-- To make sure of a directory is to make it, or to do nothing. -/
theorem ensureDirectory_cases (t : FileTree) (cwd : List String) (p : Path) :
    t.makeDirectory cwd p = .ok (t.ensureDirectory cwd p).1 ∨ (t.ensureDirectory cwd p).1 = t := by
  unfold ensureDirectory
  split
  · next t' h => exact .inl h
  · split
    · exact .inr rfl
    · exact .inr rfl

/-- What holds on after every directory on the way of a path holds on after all of them. -/
theorem makeDirectoriesUp_induction {P : FileTree → Prop} {root : String} {whole : List String}
    (hmake : ∀ t parts, parts <+: whole → P t → P (t.ensureDirectory cwd { root, parts }).1)
    (fuel : Nat) {t : FileTree} {parts : List String} (hparts : parts <+: whole) (h : P t) :
    P (makeDirectoriesUp cwd root fuel t parts).1 := by
  induction fuel generalizing t parts with
  | zero => exact hmake t parts hparts h
  | succ fuel ih =>
    have hfirst := hmake t parts hparts h
    rw [makeDirectoriesUp]
    split
    · next t₁ path target h₁ =>
      rw [h₁] at hfirst
      split
      · exact hfirst
      · have hup := ih (parts.dropLast_prefix.trans hparts) hfirst
        split
        · next t₂ e h₂ =>
          rw [h₂] at hup
          exact hup
        · next t₂ h₂ =>
          rw [h₂] at hup
          exact hmake t₂ parts hparts hup
    · exact hfirst

theorem makeDirectories_induction {P : FileTree → Prop}
    (hmake : ∀ t parts, parts <+: p.parts → P t → P (t.ensureDirectory cwd { p with parts }).1)
    (h : P t) :
    P (t.makeDirectories cwd p).1 :=
  makeDirectoriesUp_induction hmake p.parts.length List.prefix_rfl h

theorem keeps_ensureDirectory (t : FileTree) (cwd : List String) (p : Path) :
    Keeps changed t (t.ensureDirectory cwd p).1 := by
  rcases ensureDirectory_cases t cwd p with hmade | hsame
  · obtain ⟨hnone, hput⟩ := makeDirectory_spec hmade
    rw [hput]
    exact .put_of_none hnone .directory
  · rw [hsame]
    exact .refl changed t

/-- To make directories takes nothing away, also where it fails. -/
theorem keeps_makeDirectories (t : FileTree) (cwd : List String) (p : Path) :
    Keeps changed t (t.makeDirectories cwd p).1 :=
  makeDirectories_induction (fun t' _ _ h => h.trans (keeps_ensureDirectory t' cwd _))
    (.refl changed t)

/-- A file is put where its path leads, if no directory is there. -/
theorem write_eq_put {content : ByteArray} (h : t.write cwd p content = .ok t') :
    t.locate cwd p = .ok (p.resolve cwd) ∧ t.get? (p.resolve cwd) ≠ some .directory ∧
      t' = t.put (p.resolve cwd) (.file content) := by
  unfold write at h
  split at h
  · exact absurd h nofun
  · next place hplace =>
    obtain rfl := locate_eq_resolve hplace
    split at h
    · exact absurd h nofun
    · next hother => exact ⟨hplace, hother, (Except.ok.inj h).symm⟩

/-- A file that was written is where its path leads, and nothing else was changed. -/
theorem write_spec {content : ByteArray} (h : t.write cwd p content = .ok t') :
    t.locate cwd p = .ok (p.resolve cwd) ∧ t'.get? (p.resolve cwd) = some (.file content) ∧
      ChangesOnly (· = p.resolve cwd) t t' := by
  obtain ⟨hlocate, hother, rfl⟩ := write_eq_put h
  refine ⟨hlocate, ?_, .put hother _⟩
  rw [get?_put (ne_nil_of_not_directory hother), Function.update_self]

/-- A file that is read is where its path leads. -/
theorem read_eq_ok_iff_get? {content : ByteArray} :
    t.read cwd p = .ok content ↔
      t.locate cwd p = .ok (p.resolve cwd) ∧ t.get? (p.resolve cwd) = some (.file content) := by
  unfold read
  cases hlocate : t.locate cwd p with
  | error problem => simp
  | ok place =>
    obtain rfl := locate_eq_resolve hlocate
    cases hget : t.get? (p.resolve cwd) with
    | none => simp [hget]
    | some entry => cases entry <;> simp [hget]

end ServiceMigration.FileTree
