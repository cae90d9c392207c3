import ServiceMigration.Proofs.Text.Cut
import ServiceMigration.Service.Endpoint
/-!
# Joined paths

A path that is joined from parts is absolute and has one slash in front and none at its end.
`IsNormalPath` says so of a text, and the normal paths are exactly those that joining leaves alone.
A joined path stands for the parts that it is made of wherever it is joined with others, so the
order in which parts are joined makes no difference (`joinPaths_regroups`).
-/

namespace ServiceMigration

open Text

variable {s t : String} {cs : List Char} {parts : List (Option String)}
  {segments : List (List Char)}

/-- The text neither begins nor ends with a slash. -/
def IsTrimmed (cs : List Char) : Prop := (∀ c ∈ cs.head?, c ≠ '/') ∧ ∀ c ∈ cs.getLast?, c ≠ '/'

/-- An absolute path: it begins with one slash and, the root apart, does not end with one. -/
structure IsNormalPath (s : String) : Prop where
  absolute : s.toList.head? = some '/'
  noSlashAtEnd : s.toList.getLast? = some '/' → s = "/"
  noSecondSlash : ¬ ['/', '/'] <+: s.toList

/-! ### Segments -/

theorem isTrimmed_trimSlashes (s : String) : IsTrimmed (trimSlashes s) := by
  constructor
  · intro c hc
    simpa using head?_trimBoth _ _ c hc
  · intro c hc
    simpa using getLast?_trimBoth _ _ c hc

theorem trimSlashes_of_isTrimmed (h : IsTrimmed s.toList) : trimSlashes s = s.toList := by
  apply trimBoth_eq_self
  · intro c hc
    simpa using h.1 c hc
  · intro c hc
    simpa using h.2 c hc

/-- The slash in front of a path is trimmed off. -/
theorem trimSlashes_slash_cons (h : IsTrimmed cs) :
    trimSlashes (String.ofList ('/' :: cs)) = cs := by
  have hdrop : trimSlashes (String.ofList ('/' :: cs)) = trimSlashes (String.ofList cs) := by
    simp [trimSlashes, trimBoth]
  rw [hdrop, trimSlashes_of_isTrimmed (by rwa [String.toList_ofList]), String.toList_ofList]

theorem of_mem_pathSegments {segment : List Char} (h : segment ∈ pathSegments parts) :
    segment ≠ [] ∧ IsTrimmed segment := by
  obtain ⟨hmem, hsome⟩ := List.mem_filter.mp h
  obtain ⟨part, -, hpart⟩ := List.mem_filterMap.mp hmem
  obtain ⟨s, -, rfl⟩ := Option.map_eq_some_iff.mp hpart
  exact ⟨by simpa using hsome, isTrimmed_trimSlashes s⟩

theorem pathSegments_append (before after : List (Option String)) :
    pathSegments (before ++ after) = pathSegments before ++ pathSegments after := by
  rw [pathSegments, List.filterMap_append, List.filter_append, ← pathSegments, ← pathSegments]

theorem pathSegments_singleton (s : String) :
    pathSegments [some s] = if trimSlashes s = [] then [] else [trimSlashes s] := by
  by_cases h : trimSlashes s = [] <;> simp [pathSegments, h]

/-- Segments that are laid end to end have no slash at the ends either, and they leave nothing only
if there are none. -/
theorem isTrimmed_joinWith (h : ∀ segment ∈ segments, segment ≠ [] ∧ IsTrimmed segment) :
    (joinWith ['/'] segments = [] ↔ segments = []) ∧ IsTrimmed (joinWith ['/'] segments) := by
  induction segments with
  | nil => exact ⟨iff_of_true rfl rfl, nofun, nofun⟩
  | cons segment rest ih =>
    obtain ⟨⟨hsome, hfirst, hlast⟩, hrest⟩ := List.forall_mem_cons.mp h
    obtain ⟨hnil, -, hlastRest⟩ := ih hrest
    by_cases hr : rest = []
    · rw [hr, joinWith]
      exact ⟨by simp [hsome], hfirst, hlast⟩
    · have hjoined : joinWith ['/'] rest ≠ [] := by rwa [ne_eq, hnil]
      rw [joinWith_cons segment hr]
      refine ⟨by simp [hsome], ?_, ?_⟩
      · rwa [List.append_assoc, List.head?_append,
          Option.or_of_isSome (List.isSome_head?.mpr hsome)]
      · rwa [List.getLast?_append, Option.or_of_isSome (by simpa using hjoined)]

theorem isTrimmed_joinWith_pathSegments (parts : List (Option String)) :
    IsTrimmed (joinWith ['/'] (pathSegments parts)) :=
  (isTrimmed_joinWith fun _ => of_mem_pathSegments).2

theorem joinWith_pathSegments_eq_nil_iff :
    joinWith ['/'] (pathSegments parts) = [] ↔ pathSegments parts = [] :=
  (isTrimmed_joinWith fun _ => of_mem_pathSegments).1

/-! ### Joining -/

theorem trimSlashes_joinPaths (parts : List (Option String)) :
    trimSlashes (joinPaths parts) = joinWith ['/'] (pathSegments parts) :=
  trimSlashes_slash_cons (isTrimmed_joinWith_pathSegments parts)

/-- A joined path is joined further as one segment, and the root as none. -/
theorem pathSegments_joinPaths (parts : List (Option String)) :
    pathSegments [some (joinPaths parts)] =
    if pathSegments parts = [] then [] else [joinWith ['/'] (pathSegments parts)] := by
  rw [pathSegments_singleton, trimSlashes_joinPaths]
  exact if_congr joinWith_pathSegments_eq_nil_iff rfl rfl

theorem joinPaths_append_joinPaths_cons (before inner after : List (Option String)) :
    joinPaths (before ++ some (joinPaths inner) :: after) =
      joinPaths (before ++ inner ++ after) := by
  have hcons : before ++ some (joinPaths inner) :: after =
      before ++ ([some (joinPaths inner)] ++ after) := rfl
  have hsegments : joinWith ['/'] (pathSegments (before ++ some (joinPaths inner) :: after)) =
      joinWith ['/'] (pathSegments (before ++ inner ++ after)) := by
    rw [hcons]
    simp only [pathSegments_append, pathSegments_joinPaths]
    by_cases hinner : pathSegments inner = []
    · rw [if_pos hinner, hinner, List.nil_append, List.append_nil]
    · rw [if_neg hinner, List.singleton_append, joinWith_append_joinWith_cons _ _ hinner]
  rw [joinPaths, hsegments, ← joinPaths]

/-! ### Normal paths -/

theorem isNormalPath_iff : IsNormalPath s ↔ ∃ cs, s = String.ofList ('/' :: cs) ∧ IsTrimmed cs := by
  constructor
  · rintro ⟨habsolute, hend, hsecond⟩
    obtain ⟨cs, hcs⟩ := List.head?_eq_some_iff.mp habsolute
    refine ⟨cs, by rw [← hcs, String.ofList_toList], ?_, ?_⟩
    · rintro c hc rfl
      obtain ⟨rest, rfl⟩ := List.head?_eq_some_iff.mp hc
      exact hsecond (hcs ▸ ⟨rest, rfl⟩)
    · rintro c hc rfl
      have hroot : s = "/" := by
        apply hend
        rw [hcs, List.getLast?_cons, Option.mem_def.mp hc, Option.getD_some]
      rw [hroot] at hcs
      obtain rfl : cs = [] := (List.cons.inj hcs).2.symm
      exact absurd hc nofun
  · rintro ⟨cs, rfl, hfirst, hlast⟩
    refine ⟨by simp, ?_, ?_⟩
    · intro h
      rw [String.toList_ofList, List.getLast?_cons] at h
      cases hcs : cs.getLast? with
      | none => rw [List.getLast?_eq_none_iff.mp hcs]
      | some c =>
        rw [hcs] at h
        exact absurd (Option.some.inj h) (hlast c hcs)
    · rw [String.toList_ofList]
      rintro ⟨rest, hrest⟩
      obtain rfl : '/' :: rest = cs := (List.cons.inj hrest).2
      exact hfirst '/' rfl rfl

theorem isNormalPath_joinPaths (parts : List (Option String)) : IsNormalPath (joinPaths parts) :=
  isNormalPath_iff.mpr ⟨_, rfl, isTrimmed_joinWith_pathSegments parts⟩

-- Slashes inside of a part stay.
example : joinPaths [some "//a//b/", none, some "/", some "c/"] = "/a//b/c" := rfl

/-- A normal path other than the root is one segment, with a slash in front. -/
theorem pathSegments_of_isNormalPath (h : IsNormalPath s) (hroot : s ≠ "/") :
    ∃ cs, s = String.ofList ('/' :: cs) ∧ pathSegments [some s] = [cs] := by
  obtain ⟨cs, rfl, hcs⟩ := isNormalPath_iff.mp h
  refine ⟨cs, rfl, ?_⟩
  rw [pathSegments_singleton, trimSlashes_slash_cons hcs, if_neg]
  rintro rfl
  exact hroot rfl

theorem joinPaths_singleton_of_isNormalPath (h : IsNormalPath s) : joinPaths [some s] = s := by
  by_cases hroot : s = "/"
  · rw [hroot]
    rfl
  · obtain ⟨cs, rfl, hsegments⟩ := pathSegments_of_isNormalPath h hroot
    rw [joinPaths, hsegments, joinWith]

theorem joinPaths_pair_of_isNormalPath (hs : IsNormalPath s) (hsroot : s ≠ "/")
    (ht : IsNormalPath t) (htroot : t ≠ "/") : joinPaths [some s, some t] = s ++ t := by
  obtain ⟨cs, rfl, hcs⟩ := pathSegments_of_isNormalPath hs hsroot
  obtain ⟨ds, rfl, hds⟩ := pathSegments_of_isNormalPath ht htroot
  have hpair : pathSegments [some (String.ofList ('/' :: cs)), some (String.ofList ('/' :: ds))] =
      [cs] ++ [ds] := by
    rw [← hcs, ← hds, ← pathSegments_append, List.singleton_append]
  rw [joinPaths, hpair, ← String.ofList_append, joinWith_append (by simp) (by simp)]
  simp [joinWith]

/-- Joining is associative, for any number of parts, and its results are normal paths: those that it
leaves alone.  Two normal paths, neither of them the root, are laid end to end. -/
theorem joinPaths_regroups :
    (∀ a b c, joinPaths [some (joinPaths [a, b]), c] = joinPaths [a, b, c] ∧
      joinPaths [a, some (joinPaths [b, c])] = joinPaths [a, b, c]) ∧
    (∀ before inner after, joinPaths (before ++ some (joinPaths inner) :: after) =
      joinPaths (before ++ inner ++ after)) ∧
    (∀ parts, IsNormalPath (joinPaths parts) ∧ joinPaths [some (joinPaths parts)] =
      joinPaths parts) ∧
    (∀ s, IsNormalPath s ↔ joinPaths [some s] = s) ∧
    ∀ s t, IsNormalPath s → s ≠ "/" → IsNormalPath t → t ≠ "/" →
      joinPaths [some s, some t] = s ++ t := by
  refine ⟨?_, joinPaths_append_joinPaths_cons, ?_, ?_, ?_⟩
  · intro a b c
    exact ⟨joinPaths_append_joinPaths_cons [] [a, b] [c],
      joinPaths_append_joinPaths_cons [a] [b, c] []⟩
  · intro parts
    exact ⟨isNormalPath_joinPaths parts,
      joinPaths_singleton_of_isNormalPath (isNormalPath_joinPaths parts)⟩
  · intro s
    constructor
    · exact joinPaths_singleton_of_isNormalPath
    · intro h
      exact h ▸ isNormalPath_joinPaths [some s]
  · intro s t hs hsroot ht htroot
    exact joinPaths_pair_of_isNormalPath hs hsroot ht htroot

theorem joinPaths_regroups_orders :
    IsNormalPath "/shop" ∧ IsNormalPath "/orders" ∧ joinPaths [some "/shop", some "/orders"] =
      "/shop/orders" := by
  obtain ⟨-, -, -, hnormal, happend⟩ := joinPaths_regroups
  have hshop : IsNormalPath "/shop" := (hnormal _).mpr rfl
  have horders : IsNormalPath "/orders" := (hnormal _).mpr rfl
  exact ⟨hshop, horders, happend _ _ hshop (by decide) horders (by decide)⟩

end ServiceMigration
