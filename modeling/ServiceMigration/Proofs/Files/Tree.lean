import Mathlib.Logic.Function.Basic
import ServiceMigration.Files.Tree
import ServiceMigration.Proofs.Value.Lookup
/-!
# Trees as functions of places

What is at each place is all that operations see of a tree.  To put something at a place and to
erase a place are updates of that function, and a way that leads through directories is not changed
by an update that leaves the directories where they are (`FileTree.locate_eq`).
-/

namespace ServiceMigration.FileTree

variable {t t' : FileTree} {cwd place q : List String} {p : Path}

theorem get?_of_ne_nil (h : q ≠ []) : t.get? q = t.entries.lookup q := by
  rw [get?, if_neg (by simpa using h)]

theorem get?_nil : t.get? [] = some .directory := rfl

theorem get?_put (hplace : place ≠ []) (e : FileEntry) :
    (t.put place e).get? = Function.update t.get? place (some e) := by
  funext q
  by_cases hq : q = []
  · subst hq
    rw [get?_nil, Function.update_of_ne hplace.symm, get?_nil]
  · rw [get?_of_ne_nil hq, put, List.lookup_append, lookup_filter_fst fun k => k != place,
      Function.update_apply, List.lookup_cons, List.lookup_nil, get?_of_ne_nil hq]
    by_cases he : q = place
    · simp [he]
    · have hne : (q == place) = false := by simpa using he
      simp [he, hne]

theorem get?_erase (hplace : place ≠ []) :
    (t.erase place).get? = Function.update t.get? place none := by
  funext q
  by_cases hq : q = []
  · subst hq
    rw [get?_nil, Function.update_of_ne hplace.symm, get?_nil]
  · rw [get?_of_ne_nil hq, erase, lookup_filter_fst fun k => k != place, Function.update_apply,
      get?_of_ne_nil hq]
    by_cases he : q = place <;> simp [he]

/-- A way into a directory goes on to a name in it. -/
theorem walk_append_singleton {names place q : List String} {name : String}
    (h : t.walk place names = .ok q) (hq : t.get? q = some .directory) (hup : name ≠ "..")
    (hshort : isTooLong name = false) : t.walk place (names ++ [name]) = .ok (q ++ [name]) := by
  fun_induction walk t place names with
  | case1 place =>
    obtain rfl := Except.ok.inj h
    simp [walk, hup, hshort]
  | case2 place first hfirst =>
    obtain rfl := Except.ok.inj h
    simp [walk, hfirst, hup, hshort]
  | case4 place first hfirst hlong =>
    obtain rfl := Except.ok.inj h
    simp [walk, hfirst, hlong, hq, hup, hshort]
  | case5 place first rest hrest hfirst ih =>
    rw [List.cons_append, walk, if_pos hfirst]
    · exact ih h
    · simp
  | case7 place first rest hrest hfirst hlong hget ih =>
    rw [List.cons_append, walk, if_neg hfirst, if_neg hlong, hget]
    · exact ih h
    · simp
  | case3 | case6 | case8 | case9 => simp at h

theorem fromTop_append_singleton (p : Path) (cwd : List String) (name : String) :
    ({ p with parts := p.parts ++ [name] } : Path).fromTop cwd = p.fromTop cwd ++ [name] := by
  simp only [Path.fromTop]
  split <;> simp

theorem locate_append_singleton {name : String} (h : t.locate cwd p = .ok place)
    (hplace : t.get? place = some .directory) (hup : name ≠ "..")
    (hshort : isTooLong name = false) :
    t.locate cwd { p with parts := p.parts ++ [name] } = .ok (place ++ [name]) := by
  rw [locate, fromTop_append_singleton]
  exact walk_append_singleton h hplace hup hshort

/-- A tree has all directories of another one. -/
def HasDirectoriesOf (t' t : FileTree) : Prop :=
  ∀ q, t.get? q = some .directory → t'.get? q = some .directory

theorem walk_eq (h : t'.HasDirectoriesOf t) {names place q : List String}
    (hwalk : t.walk place names = .ok q) : t'.walk place names = .ok q := by
  fun_induction walk t place names with
  | case1 => exact hwalk
  | case2 place name hup => rwa [walk, if_pos hup]
  | case4 place name hup hlong => simpa [walk, hup, hlong] using hwalk
  | case5 place name rest hrest hup ih =>
    rw [walk, if_pos hup]
    · exact ih hwalk
    · exact hrest
  | case7 place name rest hrest hup hlong hget ih =>
    rw [walk, if_neg hup, if_neg hlong, h _ hget]
    · exact ih hwalk
    · exact hrest
  | case3 | case6 | case8 | case9 => simp at hwalk

/-- A way that a tree has, it has where the tree is given more or other files. -/
theorem locate_eq (h : t'.HasDirectoriesOf t) (hlocate : t.locate cwd p = .ok place) :
    t'.locate cwd p = .ok place :=
  walk_eq h hlocate

theorem walk_congr (h : t'.get? = t.get?) (place names : List String) :
    t'.walk place names = t.walk place names := by
  fun_induction walk t place names with
  | case1 => rfl
  | case2 place name hup => rw [walk, if_pos hup]
  | case3 place name hup hlong => rw [walk, if_neg hup, if_pos hlong]
  | case4 place name hup hlong => rw [walk, if_neg hup, if_neg hlong]
  | case5 place name rest hrest hup ih =>
    rw [walk, if_pos hup, ih]
    exact hrest
  | case6 place name rest hrest hup hlong =>
    rw [walk, if_neg hup, if_pos hlong]
    exact hrest
  | case7 place name rest hrest hup hlong hget ih =>
    rw [walk, if_neg hup, if_neg hlong, h, hget, ih]
    exact hrest
  | case8 place name rest hrest hup hlong content hget =>
    rw [walk, if_neg hup, if_neg hlong, h, hget]
    exact hrest
  | case9 place name rest hrest hup hlong hget =>
    rw [walk, if_neg hup, if_neg hlong, h, hget]
    exact hrest

/-- Trees with the same at every place read alike. -/
theorem read_congr (h : t'.get? = t.get?) (cwd : List String) (p : Path) :
    t'.read cwd p = t.read cwd p := by
  rw [read, read, locate, locate, walk_congr h, h]

/-- A file takes no directory's place. -/
theorem hasDirectoriesOf_update {e : Option FileEntry}
    (hget : t'.get? = Function.update t.get? place e)
    (hplace : t.get? place ≠ some .directory) : t'.HasDirectoriesOf t := by
  intro q hq
  have hne : q ≠ place := by
    rintro rfl
    exact hplace hq
  rw [hget, Function.update_of_ne hne, hq]

/-- The names in a directory are those under which something is there. -/
theorem mem_namesIn {name : String} {e : FileEntry} (h : t.get? (place ++ [name]) = some e) :
    name ∈ t.namesIn place := by
  rw [get?_of_ne_nil (by simp), List.lookup_eq_some_iff] at h
  obtain ⟨before, after, hentries, -⟩ := h
  rw [namesIn, List.mem_filterMap]
  refine ⟨(place ++ [name], e), by simp [hentries], ?_⟩
  simp

end ServiceMigration.FileTree
