import Mathlib.Data.List.Infix
import ServiceMigration.Proofs.Files.Keeping
/-!
# Where a tree is changed

Changes of a tree are confined (`FileTree.Confined`) when files are written at some places only, and
all that is new besides are directories on the way to them.  A path whose names never climb stays
below the place where it starts (`Path.prefix_follow`), and so does all that is on its way
(`Path.OnWay.of_child`).
-/

namespace ServiceMigration

/-! ### Ways that stay below a place -/

/-- A place below another one. -/
def IsBelow (root q : List String) : Prop := root <+: q ∧ q ≠ root

theorem isBelow_append_singleton {root place : List String} {name : String} :
    IsBelow root (place ++ [name]) ↔ root <+: place := by
  constructor
  · rintro ⟨hbegins, hne⟩
    exact (List.prefix_concat_iff.mp hbegins).resolve_left hne.symm
  · intro hbegins
    refine ⟨hbegins.trans (List.prefix_append place [name]), fun heq => ?_⟩
    have hlength := hbegins.length_le
    rw [← heq, List.length_append, List.length_singleton] at hlength
    omega

namespace Path

variable {cwd place names q : List String} {p : Path} {text : String}

theorem follow_append (place xs ys : List String) :
    follow place (xs ++ ys) = follow (follow place xs) ys := by
  induction xs generalizing place with
  | nil => rfl
  | cons x rest ih => exact ih _

/-- Names of which, however many are followed, no more go up than down. -/
def NeverClimbs (names : List String) : Prop := ∀ ns ∈ names.inits, 2 * ns.count ".." ≤ ns.length

instance : Decidable (NeverClimbs names) := inferInstanceAs (Decidable (∀ _ ∈ _, _))

theorem NeverClimbs.of_prefix {ns : List String} (h : NeverClimbs names) (hbegins : ns <+: names) :
    NeverClimbs ns := by
  intro ns' hns'
  exact h ns' ((List.mem_inits _ _).mpr (((List.mem_inits _ _).mp hns').trans hbegins))

/-- Names that climb no further than they start below a place lead to a place below it. -/
theorem prefix_follow_append (below : List String)
    (h : ∀ ns, ns <+: names → 2 * ns.count ".." ≤ ns.length + below.length) :
    place <+: follow (place ++ below) names := by
  induction names generalizing below with
  | nil => exact List.prefix_append place below
  | cons name rest ih =>
    have hrest : ∀ ns, ns <+: rest →
        2 * (name :: ns).count ".." ≤ ns.length + 1 + below.length := by
      intro ns hns
      exact h (name :: ns) (List.prefix_cons_inj name |>.mpr hns)
    rw [follow]
    by_cases hup : name = ".."
    · subst hup
      simp only [List.count_cons_self] at hrest
      have hbelow : below ≠ [] := by
        rintro rfl
        have hfirst := hrest [] List.nil_prefix
        simp at hfirst
      rw [beq_self_eq_true, if_pos rfl, List.dropLast_append_of_ne_nil hbelow]
      refine ih below.dropLast fun ns hns => ?_
      have hcount := hrest ns hns
      have hpos := List.length_pos_iff.mpr hbelow
      rw [List.length_dropLast]
      omega
    · simp only [List.count_cons_of_ne hup] at hrest
      rw [if_neg (by simpa using hup), List.append_assoc]
      refine ih (below ++ [name]) fun ns hns => ?_
      have hcount := hrest ns hns
      rw [List.length_append, List.length_singleton]
      omega

theorem prefix_follow (h : NeverClimbs names) (place : List String) :
    place <+: follow place names := by
  have hfollow := @prefix_follow_append place names [] fun ns hns =>
    h ns ((List.mem_inits _ _).mpr hns)
  rwa [List.append_nil] at hfollow

/-- The places on the way of a path, and that of the path itself. -/
def OnWay (cwd : List String) (p : Path) (q : List String) : Prop :=
  ∃ parts, parts <+: p.parts ∧ q = ({ p with parts } : Path).resolve cwd

theorem onWay_resolve (cwd : List String) (p : Path) : OnWay cwd p (p.resolve cwd) :=
  ⟨p.parts, List.prefix_rfl, rfl⟩

theorem resolve_append (cwd : List String) (p : Path) (names : List String) :
    ({ p with parts := p.parts ++ names } : Path).resolve cwd = follow (p.resolve cwd) names := by
  have hnames : ({ p with parts := p.parts ++ names } : Path).fromTop cwd =
    p.fromTop cwd ++ names := by
    simp only [fromTop]
    split
    · exact (List.append_assoc _ _ _).symm
    · rfl
  rw [resolve, hnames, follow_append]
  rfl

theorem child_of_relative (p : Path) (htext : rootOf text = "") :
    p.child text = { p with parts := p.parts ++ namesOf text } := by
  rw [child, join, ofString, htext]
  rfl

/-- A path with a root of its own goes from the top, whatever it is seen from. -/
theorem child_of_rooted (p : Path) (htext : rootOf text ≠ "") :
    p.child text = { root := rootOf text, parts := namesOf text } := by
  rw [child, join, ofString]
  exact if_neg (by simpa using htext)

theorem resolve_child (cwd : List String) (p : Path) (text : String) :
    (p.child text).resolve cwd = follow (if rootOf text = "" then p.resolve cwd else [])
    (namesOf text) := by
  by_cases htext : rootOf text = ""
  · rw [child_of_relative p htext, resolve_append, if_pos htext]
  · rw [child_of_rooted p htext, if_neg htext, resolve, fromTop]
    exact congrArg (follow []) (if_neg (by simpa using htext))

/-- What is on the way to a relative path that never climbs is on the way to where it starts, or
below that. -/
theorem OnWay.of_child (h : OnWay cwd (p.child text) q) (htext : rootOf text = "")
    (hclimbs : NeverClimbs (namesOf text)) : OnWay cwd p q ∨ IsBelow (p.resolve cwd) q := by
  obtain ⟨parts, hparts, rfl⟩ := h
  rw [child_of_relative p htext] at hparts ⊢
  rcases List.prefix_or_prefix_of_prefix hparts (List.prefix_append p.parts (namesOf text))
    with hshort | hlong
  · exact .inl ⟨parts, hshort, rfl⟩
  · obtain ⟨names, rfl⟩ := hlong
    have hnames : names <+: namesOf text := (List.prefix_append_right_inj p.parts).mp hparts
    have hbelow : p.resolve cwd <+: ({ p with parts := p.parts ++ names } : Path).resolve cwd := by
      rw [resolve_append]
      exact prefix_follow (hclimbs.of_prefix hnames) _
    by_cases hself : ({ p with parts := p.parts ++ names } : Path).resolve cwd = p.resolve cwd
    · rw [hself]
      exact .inl (onWay_resolve cwd p)
    · exact .inr ⟨hbelow, hself⟩

end Path

/-! ### Confined changes -/

namespace FileTree

variable {t t' t'' : FileTree} {cwd : List String} {p : Path}
  {files directories : List String → Prop}

/-- Whatever is changed is the place of a file of some kind, or a directory of some kind where
nothing was. -/
def Confined (files directories : List String → Prop) (t t' : FileTree) : Prop :=
  ∀ q, ¬files q → t'.get? q = t.get? q ∨ directories q ∧ t.get? q = none ∧
  t'.get? q = some .directory

theorem Confined.refl (files directories : List String → Prop) (t : FileTree) :
    Confined files directories t t :=
  fun _ _ => .inl rfl

theorem Confined.trans (h : Confined files directories t t')
    (h' : Confined files directories t' t'') :
    Confined files directories t t'' := by
  intro q hq
  rcases h q hq with heq | ⟨hplace, hnone, hmade⟩
  · rw [← heq]
    exact h' q hq
  · rcases h' q hq with heq' | ⟨-, hnone', -⟩
    · exact .inr ⟨hplace, hnone, heq'.trans hmade⟩
    · rw [hmade] at hnone'
      exact absurd hnone' nofun

theorem Confined.mono {files' directories' : List String → Prop}
    (h : Confined files directories t t')
    (hfiles : ∀ q, files q → files' q) (hdirectories : ∀ q, directories q → directories' q) :
    Confined files' directories' t t' :=
  fun q hq => (h q fun hfile => hq (hfiles q hfile)).imp_right fun hmade =>
    ⟨hdirectories q hmade.1, hmade.2⟩

theorem ChangesOnly.confined (h : ChangesOnly files t t') : Confined files directories t t' :=
  fun q hq => .inl (h.elsewhere q hq)

theorem confined_ensureDirectory (t : FileTree) (cwd : List String) (p : Path) :
    Confined files (· = p.resolve cwd) t (t.ensureDirectory cwd p).1 := by
  rcases ensureDirectory_cases t cwd p with hmade | hsame
  · obtain ⟨hnone, hput⟩ := makeDirectory_spec hmade
    have hother : t.get? (p.resolve cwd) ≠ some .directory := by simp [hnone]
    rw [hput]
    intro q _
    by_cases hq : q = p.resolve cwd
    · subst hq
      rw [get?_put (ne_nil_of_not_directory hother), Function.update_self]
      exact .inr ⟨rfl, hnone, rfl⟩
    · exact .inl ((ChangesOnly.put hother .directory).elsewhere q hq)
  · rw [hsame]
    exact .refl _ _ t

/-- To make directories makes some of those on the way, also where it fails. -/
theorem confined_makeDirectories (t : FileTree) (cwd : List String) (p : Path) :
    Confined files (p.OnWay cwd) t (t.makeDirectories cwd p).1 := by
  refine makeDirectories_induction (fun t' parts hparts h => h.trans ?_) (.refl _ _ t)
  refine (confined_ensureDirectory t' cwd _).mono (fun _ hq => hq) ?_
  rintro q rfl
  exact ⟨parts, hparts, rfl⟩

end FileTree

end ServiceMigration
