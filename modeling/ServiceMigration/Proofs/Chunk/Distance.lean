import Mathlib.Order.Lattice.Nat
import ServiceMigration.Proofs.Mapping.Reference
/-!
# The order of a closure

What is pending in the search for a closure falls into levels: when one level has been looked into,
what is pending is what its fields mention and was not admitted before, each name at its first
mention (`Closure.run_round`).  So after a number of rounds those names are admitted that are at
most that many steps away from the endpoints (`Closure.level_iterate`), and the search ends with all
names that can be reached, the nearest ones first (`requiredDtos_nearest_first`).
-/

namespace ServiceMigration.Chunk

open Mapping

variable {endpoints : List Endpoint} {dtos : List Dto} {n : Nat} {name : String}

/-! ### Distances -/

/-- A name of a data-transfer type that is reached in so many steps: an endpoint mentions it, or a
field of what a name means that was reached before. -/
inductive ReachedIn (endpoints : List Endpoint) (dtos : List Dto) : Nat → String → Prop
  | mentioned {name : String} (hname : name ∈ seedNames endpoints)
      (hknown : name ∈ knownNames dtos) :
      ReachedIn endpoints dtos 0 name
  | field {n : Nat} {name name' : String} {d : Dto} (h : ReachedIn endpoints dtos n name)
      (hd : firstDeclared name dtos = some d) (hname : name' ∈ fieldNames d)
      (hknown : name' ∈ knownNames dtos) : ReachedIn endpoints dtos (n + 1) name'

/-- The least number of steps in which a name is reached. -/
noncomputable def distance (endpoints : List Endpoint) (dtos : List Dto) (name : String) : Nat :=
  sInf {n | ReachedIn endpoints dtos n name}

theorem distance_le (h : ReachedIn endpoints dtos n name) : distance endpoints dtos name ≤ n :=
  Nat.sInf_le h

theorem le_distance {k : Nat} (h : ReachedIn endpoints dtos k name)
    (hless : ∀ j < n, ¬ReachedIn endpoints dtos j name) : n ≤ distance endpoints dtos name := by
  have hleast : ReachedIn endpoints dtos (distance endpoints dtos name) name :=
    Nat.sInf_mem (s := {n | ReachedIn endpoints dtos n name}) ⟨k, h⟩
  by_contra hlt
  exact hless _ (Nat.lt_of_not_le hlt) hleast

theorem reachedIn_zero_iff :
    ReachedIn endpoints dtos 0 name ↔ name ∈ seedNames endpoints ∧ name ∈ knownNames dtos := by
  constructor
  · intro h
    cases h with
    | mentioned hname hknown => exact ⟨hname, hknown⟩
  · rintro ⟨hname, hknown⟩
    exact .mentioned hname hknown

namespace Closure

variable {table : List (String × Dto)} {c : Closure} {seen : List String}

/-! ### What several names add -/

/-- The names that mean something and have not been seen, each at its first mention. -/
def newNames (table : List (String × Dto)) (seen names : List String) : List String :=
  (names.filter fun n => (table.lookup n).isSome && !seen.contains n).eraseDups

def newEntries (table : List (String × Dto)) (seen names : List String) : List (String × Dto) :=
  (newNames table seen names).filterMap fun n => (table.lookup n).map fun d => (n, d)

theorem mem_newNames {names : List String} :
    name ∈ newNames table seen names ↔ name ∈ names ∧ (table.lookup name).isSome ∧ name ∉ seen := by
  simp [newNames, List.mem_eraseDups]

theorem mem_newEntries {names : List String} {e : String × Dto} :
    e ∈ newEntries table seen names ↔
      e.1 ∈ newNames table seen names ∧ table.lookup e.1 = some e.2 := by
  obtain ⟨name, d⟩ := e
  simp only [newEntries, List.mem_filterMap, Option.map_eq_some_iff, Prod.mk.injEq]
  constructor
  · rintro ⟨_, hname, _, hd, rfl, rfl⟩
    exact ⟨hname, hd⟩
  · rintro ⟨hname, hd⟩
    exact ⟨name, hname, d, hd, rfl, rfl⟩

theorem map_fst_newEntries (table : List (String × Dto)) (seen names : List String) :
    (newEntries table seen names).map (·.1) = newNames table seen names := by
  have hall : ∀ n ∈ newNames table seen names, (table.lookup n).isSome :=
    fun n hn => (mem_newNames.mp hn).2.1
  rw [newEntries]
  generalize newNames table seen names = fresh at hall ⊢
  induction fresh with
  | nil => rfl
  | cons n rest ih =>
    obtain ⟨hn, hrest⟩ := List.forall_mem_cons.mp hall
    obtain ⟨d, hd⟩ := Option.isSome_iff_exists.mp hn
    rw [List.filterMap_cons_some (by rw [hd]; rfl), List.map_cons, ih hrest]

theorem newEntries_cons_of_settled {names : List String} (h : Settled table c name) :
    newEntries table c.names (name :: names) = newEntries table c.names names := by
  have hold : ((table.lookup name).isSome && !c.names.contains name) = false := by
    rcases h with h | h
    · simp [h]
    · simp [h]
  rw [newEntries, newNames, List.filter_cons_of_neg (by simpa using hold), newEntries, newNames]

theorem newEntries_cons_of_new {names : List String} {d : Dto} (hnew : name ∉ seen)
    (hd : table.lookup name = some d) :
    newEntries table seen (name :: names) =
      (name, d) :: newEntries table (seen ++ [name]) names := by
  have hfirst : ((table.lookup name).isSome && !seen.contains name) = true := by simp [hd, hnew]
  have hrest : newNames table seen (name :: names) =
      name :: newNames table (seen ++ [name]) names := by
    rw [newNames, List.filter_cons_of_pos (by simpa using hfirst), List.eraseDups_cons,
      List.filter_filter, newNames]
    congr 2
    refine List.filter_congr fun n _ => ?_
    by_cases hn : n = name <;> simp [hn]
  rw [newEntries, hrest, List.filterMap_cons_some (by rw [hd]; rfl), newEntries]

/-- To admit several names adds what is new among them, in the order of their first mention. -/
theorem foldl_take_eq (names : List String) (c : Closure) :
    names.foldl (take table) c =
      { admitted := c.admitted ++ newEntries table c.names names
        pending := c.pending ++ (newEntries table c.names names).map (·.2) } := by
  induction names generalizing c with
  | nil => simp [newEntries, newNames]
  | cons name rest ih =>
    rw [List.foldl_cons]
    rcases take_cases table c name with ⟨hsettled, heq⟩ | ⟨d, hnew, hd, heq⟩
    · rw [heq, ih, newEntries_cons_of_settled hsettled]
    · have hnames : names { admitted := c.admitted ++ [(name, d)], pending := c.pending ++ [d] } =
          c.names ++ [name] := by simp [names]
      rw [heq, ih, hnames, newEntries_cons_of_new hnew hd]
      simp

/-! ### Rounds -/

/-- Look into all that is pending. -/
def round (table : List (String × Dto)) (c : Closure) : Closure :=
  (c.pending.flatMap fieldNames).foldl (take table) { c with pending := [] }

theorem round_of_pending_eq_nil (h : c.pending = []) : round table c = c := by
  obtain ⟨admitted, pending⟩ := c
  obtain rfl : pending = [] := h
  rfl

/-- The search looks into the oldest part of what is pending before it comes to the rest, behind
which the new ones wait. -/
theorem run_append (admitted : List (String × Dto)) (level rest : List Dto) (fuel : Nat) :
    run table (level.length + fuel) { admitted, pending := level ++ rest } =
      run table fuel
        ((level.flatMap fieldNames).foldl (take table) { admitted, pending := rest }) := by
  induction level generalizing admitted rest with
  | nil => simp
  | cons d level ih =>
    have hlength : (d :: level).length + fuel = level.length + fuel + 1 := by
      rw [List.length_cons]
      omega
    have hpending : ({ admitted, pending := d :: level ++ rest } : Closure).pending =
      d :: (level ++ rest) := rfl
    rw [hlength, run_succ_cons _ hpending, foldl_take_eq, List.append_assoc, ih, List.flatMap_cons,
      List.foldl_append, foldl_take_eq (fieldNames d)]
    rfl

theorem run_round (c : Closure) (fuel : Nat) :
    run table (c.pending.length + fuel) c = run table fuel (round table c) := by
  have h := @run_append table c.admitted c.pending [] fuel
  rwa [List.append_nil] at h

/-- Rounds are a search; and unless nothing is pending, each of them takes some of its steps. -/
theorem exists_run_eq_iterate_round (k : Nat) (c : Closure) :
    ∃ fuel, run table fuel c = (round table)^[k] c ∧
    (k ≤ fuel ∨ ((round table)^[k] c).pending = []) := by
  induction k generalizing c with
  | zero => exact ⟨0, rfl, .inl (Nat.le_refl 0)⟩
  | succ k ih =>
    obtain ⟨fuel, hrun, hfuel⟩ := ih (round table c)
    rw [Function.iterate_succ_apply]
    refine ⟨c.pending.length + fuel, (run_round c fuel).trans hrun, ?_⟩
    by_cases hpending : c.pending = []
    · have hfixed : (round table)^[k] c = c :=
        Function.iterate_fixed (round_of_pending_eq_nil hpending) k
      right
      rw [round_of_pending_eq_nil hpending, hfixed, hpending]
    · have hpos : 0 < c.pending.length := List.length_pos_iff.mpr hpending
      exact hfuel.imp (fun h => by omega) id

/-! ### Levels -/

/-- After so many rounds: what can be reached in as many steps is admitted, nearest first, and what
takes all of them is pending. -/
structure Level (endpoints : List Endpoint) (dtos : List Dto) (n : Nat) (c : Closure) : Prop where
  named : ∀ e ∈ c.admitted, firstDeclared e.1 dtos = some e.2
  names : ∀ name, name ∈ c.names ↔ ∃ k ≤ n, ReachedIn endpoints dtos k name
  split : ∃ before level, c.admitted = before ++ level ∧ c.pending = level.map (·.2) ∧
    (∀ e ∈ before, ∃ k < n, ReachedIn endpoints dtos k e.1) ∧
    ∀ e ∈ level, ∀ k < n, ¬ReachedIn endpoints dtos k e.1
  ordered : c.admitted.Pairwise fun e e' =>
    distance endpoints dtos e.1 ≤ distance endpoints dtos e'.1

/-- What several names add to what is admitted is new, and means what its name means. -/
theorem spec_of_mem_newEntries {c : Closure} {names : List String} {e : String × Dto}
    (h : e ∈ newEntries (byName dtos) c.names names) :
    e.1 ∈ names ∧ e.1 ∈ knownNames dtos ∧ e.1 ∉ c.names ∧ firstDeclared e.1 dtos = some e.2 := by
  obtain ⟨hnew, hd⟩ := mem_newEntries.mp h
  obtain ⟨hname, -, hunseen⟩ := mem_newNames.mp hnew
  have hknown : e.1 ∈ knownNames dtos := by
    by_contra hno
    rw [(lookup_byName_eq_none_iff dtos e.1).mpr hno] at hd
    exact absurd hd nofun
  rw [← firstDeclared_eq_lookup] at hd
  exact ⟨hname, hknown, hunseen, hd⟩

theorem mem_newNames_byName {names : List String} :
    name ∈ newNames (byName dtos) seen names ↔
      name ∈ names ∧ name ∈ knownNames dtos ∧ name ∉ seen := by
  rw [mem_newNames, ← Option.ne_none_iff_isSome, Ne, lookup_byName_eq_none_iff, not_not]

theorem names_append (c : Closure) (names : List String) (pending : List Dto) :
    Closure.names { admitted := c.admitted ++ newEntries table c.names names, pending } =
      c.names ++ newNames table c.names names := by
  rw [Closure.names, List.map_append, map_fst_newEntries, Closure.names]

/-- Entries that are reached in so many steps and not in less come behind all that are reached in
less. -/
theorem pairwise_distance_append {old new : List (String × Dto)}
    (hold : old.Pairwise fun e e' => distance endpoints dtos e.1 ≤ distance endpoints dtos e'.1)
    (hle : ∀ e ∈ old ++ new, ∃ k ≤ n, ReachedIn endpoints dtos k e.1)
    (hnew : ∀ e ∈ new, ∀ k < n, ¬ReachedIn endpoints dtos k e.1) :
    (old ++ new).Pairwise fun e e' =>
      distance endpoints dtos e.1 ≤ distance endpoints dtos e'.1 := by
  have hbefore : ∀ e ∈ old ++ new, ∀ e' ∈ new,
      distance endpoints dtos e.1 ≤ distance endpoints dtos e'.1 := by
    intro e he e' he'
    obtain ⟨k, hk, hreached⟩ := hle e he
    obtain ⟨k', -, hreached'⟩ := hle e' (List.mem_append_right _ he')
    calc distance endpoints dtos e.1
        ≤ k := distance_le hreached
      _ ≤ n := hk
      _ ≤ distance endpoints dtos e'.1 := le_distance hreached' (hnew e' he')
  refine List.pairwise_append.mpr ⟨hold, ?_, fun e he e' he' =>
    hbefore e (List.mem_append_left _ he) e' he'⟩
  exact List.pairwise_of_forall_mem_list fun e he e' he' =>
    hbefore e (List.mem_append_right _ he) e' he'

theorem level_start (endpoints : List Endpoint) (dtos : List Dto) :
    Level endpoints dtos 0 ((seedNames endpoints).foldl (take (byName dtos)) {}) := by
  have hnames : ∀ name, name ∈ newNames (byName dtos) [] (seedNames endpoints) ↔
      ReachedIn endpoints dtos 0 name := by
    intro name
    simp [mem_newNames_byName, reachedIn_zero_iff]
  have hentries : ∀ e ∈ newEntries (byName dtos) [] (seedNames endpoints),
      ReachedIn endpoints dtos 0 e.1 := by
    intro e he
    exact (hnames e.1).mp (mem_newEntries.mp he).1
  rw [foldl_take_eq]
  constructor
  · intro e he
    exact (spec_of_mem_newEntries (c := {}) (by simpa [Closure.names] using he)).2.2.2
  · intro name
    rw [names_append]
    simp [Closure.names, hnames]
  · refine ⟨[], _, rfl, rfl, ?_, fun e _ k hk => absurd hk (Nat.not_lt_zero k)⟩
    intro e he
    exact absurd he List.not_mem_nil
  · refine pairwise_distance_append (n := 0) List.Pairwise.nil ?_ fun e _ k hk =>
      absurd hk (Nat.not_lt_zero k)
    intro e he
    exact ⟨0, Nat.le_refl 0, hentries e (by simpa [Closure.names] using he)⟩

section Step

variable {c : Closure}

theorem Level.reachedIn (h : Level endpoints dtos n c) {e : String × Dto} (he : e ∈ c.admitted) :
    ∃ k ≤ n, ReachedIn endpoints dtos k e.1 := (h.names e.1).mp (List.mem_map_of_mem he)

/-- What is mentioned at a level is a step further than the level, or nearer. -/
theorem Level.reachedIn_of_mem_fieldNames (h : Level endpoints dtos n c)
    (hname : name ∈ c.pending.flatMap fieldNames) (hknown : name ∈ knownNames dtos) :
    ∃ k ≤ n + 1, ReachedIn endpoints dtos k name := by
  obtain ⟨before, level, hadmitted, hpending, -, -⟩ := h.split
  obtain ⟨d, hd, hfield⟩ := List.mem_flatMap.mp hname
  rw [hpending] at hd
  obtain ⟨e, he, rfl⟩ := List.mem_map.mp hd
  have hmem : e ∈ c.admitted := hadmitted ▸ List.mem_append_right _ he
  obtain ⟨k, hk, hfrom⟩ := h.reachedIn hmem
  exact ⟨k + 1, by omega, .field hfrom (h.named e hmem) hfield hknown⟩

/-- What is a step further than a level is mentioned there, unless it has been admitted. -/
theorem Level.mem_fieldNames_of_reachedIn (h : Level endpoints dtos n c)
    (hname : ReachedIn endpoints dtos (n + 1) name) (hunseen : name ∉ c.names) :
    name ∈ c.pending.flatMap fieldNames ∧ name ∈ knownNames dtos := by
  obtain ⟨before, level, hadmitted, hpending, hbefore, -⟩ := h.split
  cases hname with
  | @field _ origin _ d hfrom hd hfield hknown =>
    refine ⟨?_, hknown⟩
    obtain ⟨e, he, rfl⟩ := List.mem_map.mp ((h.names origin).mpr ⟨n, Nat.le_refl n, hfrom⟩)
    obtain rfl : d = e.2 := Option.some.inj (hd.symm.trans (h.named e he))
    rcases List.mem_append.mp (hadmitted ▸ he) with hmem | hmem
    · -- what was admitted before the level has had its turn
      obtain ⟨k, hk, hearly⟩ := hbefore e hmem
      exact absurd ((h.names name).mpr ⟨k + 1, hk, .field hearly hd hfield hknown⟩) hunseen
    · rw [hpending]
      exact List.mem_flatMap.mpr ⟨e.2, List.mem_map_of_mem hmem, hfield⟩

theorem round_eq (c : Closure) : round table c =
    { admitted := c.admitted ++ newEntries table c.names (c.pending.flatMap fieldNames)
      pending := (newEntries table c.names (c.pending.flatMap fieldNames)).map (·.2) } := by
  rw [Closure.round, foldl_take_eq]
  rfl

/-- Another round comes one step further. -/
theorem Level.round (h : Level endpoints dtos n c) :
    Level endpoints dtos (n + 1) (round (byName dtos) c) := by
  set mentioned := c.pending.flatMap fieldNames with hmentioned
  have hnew : ∀ e ∈ newEntries (byName dtos) c.names mentioned, ∀ k < n + 1,
      ¬ReachedIn endpoints dtos k e.1 := by
    intro e he k hk hearly
    exact (spec_of_mem_newEntries he).2.2.1 ((h.names e.1).mpr ⟨k, Nat.le_of_lt_succ hk, hearly⟩)
  have hle : ∀ e ∈ c.admitted ++ newEntries (byName dtos) c.names mentioned,
      ∃ k ≤ n + 1, ReachedIn endpoints dtos k e.1 := by
    intro e he
    rcases List.mem_append.mp he with he | he
    · obtain ⟨k, hk, hearly⟩ := h.reachedIn he
      exact ⟨k, by omega, hearly⟩
    · obtain ⟨hname, hknown, -⟩ := spec_of_mem_newEntries he
      exact h.reachedIn_of_mem_fieldNames hname hknown
  rw [round_eq, ← hmentioned]
  constructor
  · intro e he
    rcases List.mem_append.mp he with he | he
    · exact h.named e he
    · exact (spec_of_mem_newEntries he).2.2.2
  · intro name
    rw [names_append, List.mem_append, mem_newNames_byName]
    constructor
    · rintro (hold | ⟨hname, hknown, -⟩)
      · obtain ⟨k, hk, hearly⟩ := (h.names name).mp hold
        exact ⟨k, by omega, hearly⟩
      · exact h.reachedIn_of_mem_fieldNames hname hknown
    · rintro ⟨k, hk, hname⟩
      by_cases hold : name ∈ c.names
      · exact .inl hold
      · obtain rfl : k = n + 1 := by
          by_contra hne
          exact hold ((h.names name).mpr ⟨k, by omega, hname⟩)
        obtain ⟨hfield, hknown⟩ := h.mem_fieldNames_of_reachedIn hname hold
        exact .inr ⟨hfield, hknown, hold⟩
  · refine ⟨c.admitted, _, rfl, rfl, ?_, hnew⟩
    intro e he
    obtain ⟨k, hk, hearly⟩ := h.reachedIn he
    exact ⟨k, by omega, hearly⟩
  · exact pairwise_distance_append h.ordered hle hnew

end Step

theorem level_iterate (endpoints : List Endpoint) (dtos : List Dto) (n : Nat) :
    Level endpoints dtos n
      ((round (byName dtos))^[n] ((seedNames endpoints).foldl (take (byName dtos)) {})) := by
  induction n with
  | zero => exact level_start endpoints dtos
  | succ n ih =>
    rw [Function.iterate_succ_apply']
    exact ih.round

end Closure

/-! ### The closure of endpoints -/

/-- More fuel than there are data-transfer types leaves the search as it is. -/
theorem run_of_le (endpoints : List Endpoint) (dtos : List Dto) {fuel : Nat}
    (h : dtos.length ≤ fuel) :
    Closure.run (byName dtos) fuel ((seedNames endpoints).foldl (Closure.take (byName dtos)) {}) =
      closure endpoints dtos := by
  obtain ⟨more, rfl⟩ := Nat.exists_eq_add_of_le h
  rw [Closure.run_add]
  exact Closure.run_of_pending_eq_nil more (closure_spec endpoints dtos).2.1

/-- From some round on the rounds stay with the closure. -/
theorem iterate_round_eq_closure (endpoints : List Endpoint) (dtos : List Dto) {k : Nat}
    (hk : dtos.length ≤ k) :
    (Closure.round (byName dtos))^[k]
    ((seedNames endpoints).foldl (Closure.take (byName dtos)) {}) =
      closure endpoints dtos := by
  obtain ⟨fuel, hrun, hfuel⟩ := @Closure.exists_run_eq_iterate_round (byName dtos) k
    ((seedNames endpoints).foldl (Closure.take (byName dtos)) {})
  rw [← hrun]
  rcases hfuel with hfuel | hpending
  · exact run_of_le endpoints dtos (hk.trans hfuel)
  · -- with nothing pending, as much fuel as there are types makes no difference
    rw [← hrun] at hpending
    rw [← @Closure.run_of_pending_eq_nil (byName dtos) _ dtos.length hpending, ← Closure.run_add]
    exact run_of_le endpoints dtos (Nat.le_add_left _ _)

theorem level_closure (endpoints : List Endpoint) (dtos : List Dto) (k : Nat) :
    Closure.Level endpoints dtos (dtos.length + k) (closure endpoints dtos) := by
  rw [← iterate_round_eq_closure endpoints dtos (Nat.le_add_right dtos.length k)]
  exact Closure.level_iterate endpoints dtos _

theorem mem_names_closure_iff :
    name ∈ (closure endpoints dtos).names ↔ ∃ n, ReachedIn endpoints dtos n name := by
  constructor
  · intro h
    obtain ⟨n, -, hn⟩ := ((level_closure endpoints dtos 0).names name).mp h
    exact ⟨n, hn⟩
  · rintro ⟨n, hn⟩
    exact ((level_closure endpoints dtos n).names name).mpr ⟨n, Nat.le_add_left _ _, hn⟩

theorem mem_requiredDtos_iff {d : Dto} : d ∈ requiredDtos endpoints dtos ↔
    firstDeclared (simpleName d.name) dtos = some d ∧ ∃ n,
      ReachedIn endpoints dtos n (simpleName d.name) := by
  rw [← mem_names_closure_iff, ← knownNames_requiredDtos, firstDeclared_eq_lookup]
  constructor
  · intro h
    exact ⟨lookup_simpleName h, List.mem_map_of_mem h⟩
  · rintro ⟨hd, hname⟩
    obtain ⟨d', hmem, hsame⟩ := List.mem_map.mp hname
    have hd' := lookup_simpleName hmem
    rw [hsame, hd] at hd'
    exact Option.some.inj hd' ▸ hmem

theorem pairwise_distance_requiredDtos (endpoints : List Endpoint) (dtos : List Dto) :
    (requiredDtos endpoints dtos).Pairwise fun d d' =>
      distance endpoints dtos (simpleName d.name) ≤
        distance endpoints dtos (simpleName d'.name) := by
  have hordered := (level_closure endpoints dtos 0).ordered
  rw [← byName_requiredDtos, byName, List.pairwise_map] at hordered
  exact hordered

/-- The names that the endpoints themselves mention come first, each where it is mentioned first. -/
theorem filter_knownNames_requiredDtos (endpoints : List Endpoint) (dtos : List Dto) :
    (knownNames (requiredDtos endpoints dtos)).filter (· ∈ seedNames endpoints) =
      ((seedNames endpoints).filter (· ∈ knownNames dtos)).eraseDups := by
  obtain ⟨later, hadmitted⟩ := @Closure.prefix_run (byName dtos) dtos.length
    ((seedNames endpoints).foldl (Closure.take (byName dtos)) {})
  have hfirst : Closure.newNames (byName dtos) [] (seedNames endpoints) =
      ((seedNames endpoints).filter (· ∈ knownNames dtos)).eraseDups := by
    rw [Closure.newNames]
    congr 1
    refine List.filter_congr fun n _ => ?_
    have hknown : ((byName dtos).lookup n).isSome ↔ n ∈ knownNames dtos := by
      rw [← Option.ne_none_iff_isSome, Ne, lookup_byName_eq_none_iff, not_not]
    rw [Bool.eq_iff_iff]
    simp [hknown]
  have hnames : knownNames (requiredDtos endpoints dtos) =
      Closure.newNames (byName dtos) [] (seedNames endpoints) ++ later.map (·.1) := by
    rw [knownNames_requiredDtos, closure, Closure.names, ← hadmitted, Closure.foldl_take_eq,
      List.map_append, ← Closure.names, Closure.names_append]
    rfl
  have hnodup := nodup_knownNames_requiredDtos endpoints dtos
  rw [hnames] at hnodup ⊢
  rw [List.filter_append, List.filter_eq_self.mpr, List.filter_eq_nil_iff.mpr,
    List.append_nil, hfirst]
  · -- a later name of the endpoints would be there twice
    intro n hn hseed
    have hmem : n ∈ knownNames (requiredDtos endpoints dtos) := hnames ▸ List.mem_append_right _ hn
    have hknown := knownNames_requiredDtos_subset endpoints dtos hmem
    have hearly : n ∈ Closure.newNames (byName dtos) [] (seedNames endpoints) :=
      Closure.mem_newNames_byName.mpr ⟨by simpa using hseed, hknown, List.not_mem_nil⟩
    exact (List.nodup_append.mp hnodup).2.2 n hearly n hn rfl
  · intro n hn
    simpa using (Closure.mem_newNames.mp hn).1

/-- The search comes to its end, with as much fuel as there are data-transfer types or with more.
It finds the first declaration of every name that can be reached, no name twice; nearer ones come
before those that are further away, and the nearest ones come in the order in which the endpoints
mention them. -/
theorem requiredDtos_nearest_first (endpoints : List Endpoint) (dtos : List Dto) :
    (∀ fuel, dtos.length ≤ fuel →
      (Closure.run (byName dtos) fuel
        (Closure.takeAll (byName dtos) {} (endpoints.flatMap mentions))).pending = [] ∧
      (Closure.run (byName dtos) fuel
        (Closure.takeAll (byName dtos) {} (endpoints.flatMap mentions))).admitted.map (·.2) =
          requiredDtos endpoints dtos) ∧
    (knownNames (requiredDtos endpoints dtos)).Nodup ∧
    (∀ d, d ∈ requiredDtos endpoints dtos ↔ firstDeclared (simpleName d.name) dtos = some d ∧
      ∃ n, ReachedIn endpoints dtos n (simpleName d.name)) ∧
    ((requiredDtos endpoints dtos).Pairwise fun d d' =>
      distance endpoints dtos (simpleName d.name) ≤ distance endpoints dtos (simpleName d'.name)) ∧
    (knownNames (requiredDtos endpoints dtos)).filter (· ∈ seedNames endpoints) =
      ((seedNames endpoints).filter (· ∈ knownNames dtos)).eraseDups := by
  refine ⟨?_, nodup_knownNames_requiredDtos endpoints dtos, fun d => mem_requiredDtos_iff,
    pairwise_distance_requiredDtos endpoints dtos, filter_knownNames_requiredDtos endpoints dtos⟩
  intro fuel hfuel
  have hrun : Closure.run (byName dtos) fuel
      (Closure.takeAll (byName dtos) {} (endpoints.flatMap mentions)) = closure endpoints dtos :=
    run_of_le endpoints dtos hfuel
  rw [hrun]
  exact ⟨(closure_spec endpoints dtos).2.1, rfl⟩

/-- A type with a field of another one. -/
def leadingTo (name next : String) : Dto where
  name
  fields := [{ name := "next", type := { name := next } }]

/-- Three types in a circle. -/
def circle : List Dto :=
  [leadingTo "Item" "Order", leadingTo "Order" "Buyer", leadingTo "Buyer" "Item"]

/-- An endpoint that returns one of them. -/
def findOrder : Endpoint where
  id := Endpoint.identity "Orders" "find" "GET"
  controllerClass := "Orders"
  methodName := "find"
  httpMethod := "GET"
  path := "/orders"
  responseBody := some { name := "Order" }

theorem requiredDtos_nearest_first_circle :
    knownNames (requiredDtos [findOrder] circle) = ["Order", "Buyer", "Item"] ∧
      (Closure.run (byName circle) 7
        (Closure.takeAll (byName circle) {} ([findOrder].flatMap mentions))).pending = [] := by
  obtain ⟨hends, -⟩ := requiredDtos_nearest_first [findOrder] circle
  exact ⟨by decide +kernel, (hends 7 (by decide)).1⟩

end ServiceMigration.Chunk
