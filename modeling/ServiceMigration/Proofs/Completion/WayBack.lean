import Mathlib.Data.List.Perm.Subperm
import Mathlib.Logic.Relation
import ServiceMigration.Completion.Fault
import ServiceMigration.Proofs.Text.Cut
/-!
# The way back from a fault

Faults go back to faults, and these links may lead in a circle.  The way back is a loop that only
remembers which places it has visited (`FaultGraph.Walks`).  It ends on every graph and from every
place, because a graph has only so many places to visit (`FaultGraph.walks_wayBack`), and it misses
none of the faults that links lead to (`FaultGraph.mem_path_iff`).  So the kind of a failure is told
by these faults alone (`FaultGraph.kind_told_by_way_back`).
-/

namespace ServiceMigration.Completion

/-- The fault is an overflow, or its words, in small letters, hold one of the phrases. -/
def Fault.IsOverflow (f : Fault) : Prop :=
  f.isOverflow = true ∨ ∃ phrase ∈ overflowPhrases, phrase.toList <:+: (Text.lower f.text).toList

theorem Fault.saysTooLong_iff {f : Fault} : f.saysTooLong = true ↔ f.IsOverflow := by
  simp only [saysTooLong, IsOverflow, Bool.or_eq_true, List.any_eq_true, Text.occursIn_iff]

namespace FaultGraph

variable {g : FaultGraph} {visited way way' : List Nat} {current : Option Nat}
  {i j root : Nat} {f : Fault}

/-! ### Links and walks -/

/-- A link that the way back takes: to the cause of a fault, and only without one to its context. -/
inductive GoesBack (g : FaultGraph) : Nat → Nat → Prop where
  | cause {i j : Nat} {f : Fault} (hf : g[i]? = some f) (hcause : f.cause = some j) : GoesBack g i j
  | context {i j : Nat} {f : Fault} (hf : g[i]? = some f) (hcause : f.cause = none)
      (hcontext : f.context = some j) : GoesBack g i j

/-- The places that a loop visits, in their order, that has visited some places and stands at one or
at none. -/
inductive Walks (g : FaultGraph) : List Nat → Option Nat → List Nat → Prop where
  | ended {visited : List Nat} : Walks g visited none []
  | met {visited : List Nat} {i : Nat} (h : i ∈ visited) : Walks g visited (some i) []
  | unknown {visited : List Nat} {i : Nat} (h : g[i]? = none) : Walks g visited (some i) []
  | visits {visited way : List Nat} {i : Nat} {f : Fault} (hnew : i ∉ visited) (hf : g[i]? = some f)
      (hrest : Walks g (i :: visited) f.back way) : Walks g visited (some i) (i :: way)

theorem goesBack_iff : g.GoesBack i j ↔ ∃ f, g[i]? = some f ∧ f.back = some j := by
  constructor
  · rintro (⟨hf, hcause⟩ | ⟨hf, hcause, hcontext⟩)
    · exact ⟨_, hf, by rw [Fault.back, hcause]⟩
    · exact ⟨_, hf, by rw [Fault.back, hcause]; exact hcontext⟩
  · rintro ⟨f, hf, hback⟩
    unfold Fault.back at hback
    split at hback
    · next k hcause => exact .cause hf (hcause.trans hback)
    · next hcause => exact .context hf hcause hback

theorem Walks.unique (h : g.Walks visited current way) (h' : g.Walks visited current way') :
    way = way' := by
  induction h generalizing way' with
  | ended =>
    cases h'
    rfl
  | met hmet =>
    cases h' with
    | met | unknown => rfl
    | visits hnew => exact absurd hmet hnew
  | unknown hunknown =>
    cases h' with
    | met | unknown => rfl
    | visits _ hf => exact absurd (hunknown.symm.trans hf) nofun
  | visits hnew hf _ ih =>
    cases h' with
    | met hmet => exact absurd hmet hnew
    | unknown hunknown => exact absurd (hunknown.symm.trans hf) nofun
    | visits _ hf' hrest' =>
      obtain rfl := Option.some.inj (hf.symm.trans hf')
      rw [ih hrest']

/-! ### The end of a walk -/

/-- A loop has visited places of the graph, and none of them twice. -/
structure IsVisited (g : FaultGraph) (visited : List Nat) : Prop where
  nodup : visited.Nodup
  known : ∀ i ∈ visited, i < g.length

theorem isVisited_nil : g.IsVisited [] := ⟨List.nodup_nil, fun _ h => absurd h List.not_mem_nil⟩

theorem IsVisited.cons (h : g.IsVisited visited) (hnew : i ∉ visited) (hf : g[i]? = some f) :
    g.IsVisited (i :: visited) where
  nodup := List.nodup_cons.mpr ⟨hnew, h.nodup⟩
  known := List.forall_mem_cons.mpr ⟨(List.getElem?_eq_some_iff.mp hf).1, h.known⟩

/-- A loop that has visited as many places as there are knows of no other. -/
theorem IsVisited.mem (h : g.IsVisited visited) (hall : g.length ≤ visited.length)
    (hi : i < g.length) :
    i ∈ visited := by
  have hsubset : visited ⊆ List.range g.length := fun j hj => List.mem_range.mpr (h.known j hj)
  have hperm := (h.nodup.subperm hsubset).perm_of_length_le (by rwa [List.length_range])
  exact hperm.mem_iff.mpr (List.mem_range.mpr hi)

/-- Fuel for the places that have not been visited yet lets the loop come to its end. -/
theorem walks_wayBack (fuel : Nat) (h : g.IsVisited visited)
    (hfuel : g.length ≤ fuel + visited.length) (i : Nat) :
    g.Walks visited (some i) (g.wayBack fuel visited i) := by
  induction fuel generalizing visited i with
  | zero =>
    rw [Nat.zero_add] at hfuel
    rw [wayBack]
    by_cases hi : i < g.length
    · exact .met (h.mem hfuel hi)
    · exact .unknown (List.getElem?_eq_none (Nat.le_of_not_lt hi))
  | succ fuel ih =>
    rw [wayBack]
    by_cases hmet : i ∈ visited
    · rw [if_pos (List.contains_iff_mem.mpr hmet)]
      exact .met hmet
    · rw [if_neg (mt List.contains_iff_mem.mp hmet)]
      cases hf : g[i]? with
      | none => exact .unknown hf
      | some f =>
        have hrest : g.length ≤ fuel + (i :: visited).length := by
          rw [List.length_cons]
          omega
        dsimp only
        cases hback : f.back with
        | none => exact .visits hmet hf (hback ▸ .ended)
        | some j => exact .visits hmet hf (hback ▸ ih (h.cons hmet hf) hrest j)

theorem walks_path (g : FaultGraph) (root : Nat) : g.Walks [] (some root) (g.path root) :=
  walks_wayBack g.length isVisited_nil (Nat.le_add_right ..) root

/-! ### What a walk visits -/

theorem Walks.nodup (h : g.Walks visited current way) : (∀ i ∈ way, i ∉ visited) ∧ way.Nodup := by
  induction h with
  | ended | met | unknown => exact ⟨fun _ h => absurd h List.not_mem_nil, List.nodup_nil⟩
  | visits hnew _ _ ih =>
    obtain ⟨hrest, hnodup⟩ := ih
    refine ⟨List.forall_mem_cons.mpr ⟨hnew, fun j hj => mt (List.mem_cons_of_mem _) (hrest j hj)⟩,
      ?_⟩
    exact List.nodup_cons.mpr ⟨fun hmem => hrest _ hmem List.mem_cons_self, hnodup⟩

/-- Links lead to every place that is visited, and there is a fault. -/
theorem Walks.reachable (h : g.Walks visited current way) (hj : j ∈ way) :
    (∃ f, g[j]? = some f) ∧ ∃ i ∈ current, Relation.ReflTransGen g.GoesBack i j := by
  induction h with
  | ended | met | unknown => exact absurd hj List.not_mem_nil
  | @visits _ _ i f _ hf _ ih =>
    rcases List.mem_cons.mp hj with rfl | hrest
    · exact ⟨⟨f, hf⟩, j, rfl, .refl⟩
    · obtain ⟨hknown, k, hk, hreach⟩ := ih hrest
      exact ⟨hknown, i, rfl, .head (goesBack_iff.mpr ⟨f, hf, hk⟩) hreach⟩

/-- The fault at which a loop stands is visited, now or before. -/
theorem Walks.mem_of_current (h : g.Walks visited (some i) way) (hf : g[i]? = some f) :
    i ∈ way ∨ i ∈ visited := by
  cases h with
  | met hmet => exact .inr hmet
  | unknown hunknown => exact absurd (hunknown.symm.trans hf) nofun
  | visits => exact .inl List.mem_cons_self

/-- A link from a place that is visited does not lead out of the places that are, now or before. -/
theorem Walks.mem_of_goesBack (h : g.Walks visited current way) (hi : i ∈ way)
    (hlink : g.GoesBack i j) (hf : g[j]? = some f) : j ∈ way ∨ j ∈ visited := by
  induction h with
  | ended | met | unknown => exact absurd hi List.not_mem_nil
  | @visits before rest k _ _ hk hrest ih =>
    have hnext : j ∈ rest ∨ j ∈ k :: before := by
      rcases List.mem_cons.mp hi with rfl | hi
      · obtain ⟨_, hk', hback⟩ := goesBack_iff.mp hlink
        obtain rfl := Option.some.inj (hk.symm.trans hk')
        rw [hback] at hrest
        exact hrest.mem_of_current hf
      · exact ih hi
    rcases hnext with hway | hvisited
    · exact .inl (List.mem_cons_of_mem _ hway)
    · rcases List.mem_cons.mp hvisited with rfl | hvisited
      · exact .inl List.mem_cons_self
      · exact .inr hvisited

/-- The way back visits exactly the faults that links lead to. -/
theorem mem_path_iff : j ∈ g.path root ↔
    (∃ f, g[j]? = some f) ∧ Relation.ReflTransGen g.GoesBack root j := by
  have hwalks := walks_path g root
  constructor
  · intro hj
    obtain ⟨hknown, i, hi, hreach⟩ := hwalks.reachable hj
    obtain rfl := Option.mem_some.mp hi
    exact ⟨hknown, hreach⟩
  · rintro ⟨⟨f, hf⟩, hreach⟩
    -- a link only starts at a fault, so all places before the last one are those of faults too
    induction hreach generalizing f with
    | refl => exact (hwalks.mem_of_current hf).resolve_right List.not_mem_nil
    | tail _ hlink ih =>
      obtain ⟨k, hk, -⟩ := goesBack_iff.mp hlink
      exact (hwalks.mem_of_goesBack (ih k hk) hlink hf).resolve_right List.not_mem_nil

/-! ### The kind of a failure -/

theorem saysTooLong_iff :
    g.saysTooLong root = true ↔ ∃ i ∈ g.path root, ∃ f, g[i]? = some f ∧ f.IsOverflow := by
  rw [saysTooLong, List.any_eq_true]
  refine exists_congr fun i => and_congr_right fun _ => ?_
  cases g[i]? with
  | none => simp
  | some f => simp [Fault.saysTooLong_iff]

/-- From every place of every graph the loop ends, with the path.  No fault is on it twice, and
those on it are the faults that links lead to.  The kind is that of a request that was too long
exactly if one of them says so, and otherwise that of a service that failed. -/
theorem kind_told_by_way_back (g : FaultGraph) (root : Nat) :
    (∀ way, g.Walks [] (some root) way ↔ way = g.path root) ∧
    (g.path root).Nodup ∧
    (∀ i, i ∈ g.path root ↔ (∃ f, g[i]? = some f) ∧ Relation.ReflTransGen g.GoesBack root i) ∧
    (g.kindAt root = .inputSizeExceeded ↔ ∃ i ∈ g.path root, ∃ f, g[i]? = some f ∧ f.IsOverflow) ∧
    (g.kindAt root = .transport ↔ ¬ ∃ i ∈ g.path root, ∃ f, g[i]? = some f ∧ f.IsOverflow) := by
  have hwalks := walks_path g root
  refine ⟨fun way => ⟨fun h => h.unique hwalks, fun h => h ▸ hwalks⟩, hwalks.nodup.2, fun i =>
    mem_path_iff, ?_, ?_⟩
  · rw [← saysTooLong_iff, kindAt]
    split
    · next hlong => simp [hlong]
    · next hlong => simp [hlong]
  · rw [← saysTooLong_iff, kindAt]
    split
    · next hlong => simp [hlong]
    · next hlong => simp [hlong]

end FaultGraph

end ServiceMigration.Completion
