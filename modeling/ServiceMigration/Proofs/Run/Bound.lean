import ServiceMigration.Proofs.Run.Coverage
import ServiceMigration.Proofs.Run.Effects
import ServiceMigration.Proofs.Run.Provenance
/-!
# How much a run does

A split puts at least two items in the place of one, each with part of its endpoints.  So a run
takes up fewer than twice as many items as there are endpoints, whatever storage and model do
(`workBound`), and no endpoint more often than the budget of the run allows.  Main statement:
`bounded_work`.
-/

namespace ServiceMigration.Run

open Completion

variable {σ : Type} {b : Backend σ} {signal : Option (Nat → Bool)} {m : ModuleSpec} {plan : Plan}

/-! ### How many items -/

/-- The most items that a run over so many endpoints takes up: two for every endpoint, less one for
every chunk that it starts with. -/
def workBound (size endpoints : Nat) : Nat :=
  if endpoints = 0 then 1 else 2 * endpoints - (endpoints + size - 1) / size

theorem WorkItem.weight_pos (item : WorkItem) : 0 < item.weight :=
  Nat.lt_of_lt_of_le Nat.one_pos (Nat.le_max_left 1 _)

theorem load_chunks (m : ModuleSpec) {size : Nat} (hs : 0 < size) (left : Int) :
    load ((m.chunks size).map fun chunk => ⟨chunk, left⟩) = workBound size m.endpoints.length := by
  unfold ModuleSpec.chunks workBound
  by_cases hfits : m.endpoints.length ≤ size
  · have hone : m.endpoints.length ≠ 0 → (m.endpoints.length + size - 1) / size = 1 := by
      intro hne
      have hsum : m.endpoints.length + size - 1 = m.endpoints.length - 1 + size := by omega
      rw [hsum, Nat.add_div_right _ hs, Nat.div_eq_of_lt (by omega)]
    simp only [ModuleSpec.fits, hfits, decide_true, if_true, List.map_cons, List.map_nil, load_cons,
      load_nil, WorkItem.weight, WorkItem.size]
    split
    · omega
    · next hne =>
      rw [hone hne]
      omega
  · have hne : m.endpoints.length ≠ 0 := by omega
    have hload := load_windows m left hs m.endpoints
    rw [Chunk.length_windows hs] at hload
    simp only [ModuleSpec.fits, hfits, decide_false, Bool.false_eq_true, if_false, List.map_map,
      Function.comp_def, if_neg hne]
    omega

/-- Every item that is handled takes at least one off the load. -/
theorem Finished.length_handled_add_load {p : Progress σ} {r : Except Failure Unit × Progress σ}
    (h : Finished b signal p r) :
    r.2.handled.length + load r.2.pending ≤ p.handled.length + load p.pending := by
  refine h.invariant
    (I := fun q => q.handled.length + load q.pending ≤ p.handled.length + load p.pending)
    (Nat.le_refl _) (fun q hq => by simpa using hq) fun q item rest r hpending hq hs => ?_
  have hnote : ∀ s handling, (q.note s item rest handling).handled.length +
      load (q.note s item rest handling).pending ≤ q.handled.length + load q.pending := by
    intro s handling
    have hless := load_next_lt item handling
    simp only [Progress.note, List.length_append, List.length_singleton, load_append,
      hpending, load_cons]
    omega
  cases hs with
  | cancelled | handled => exact Nat.le_trans (hnote _ _) hq
  | failed => exact hq

/-- A run that has something to do takes up an item. -/
theorem Finished.handled_or_pending {p : Progress σ} {r : Except Failure Unit × Progress σ}
    (h : Finished b signal p r) (hp : p.handled ≠ [] ∨ p.pending ≠ []) :
    r.2.handled ≠ [] ∨ r.2.pending ≠ [] := by
  refine h.invariant (I := fun q => q.handled ≠ [] ∨
    q.pending ≠ []) hp (fun q hq => by simpa using hq)
    fun q item rest r hpending hq hs => ?_
  cases hs with
  | cancelled | handled => exact .inl (by simp [Progress.note])
  | failed => exact hq

/-! ### How often an endpoint -/

/-- An item that begins at a place among the endpoints of the module has the endpoint `i`. -/
def reaches (i : Nat) (e : Nat × WorkItem) : Bool := e.1 ≤ i && i < e.1 + e.2.size

/-- Handled items with the places where they begin: each where the fragments before it end. -/
def placed : Nat → List (WorkItem × Handling) → List (Nat × WorkItem)
  | _, [] => []
  | start, e :: rest =>
    (start, e.1) :: placed (start + (coveredEndpoints (fragmentOf e).toList).length) rest

theorem placed_append (start : Nat) (xs ys : List (WorkItem × Handling)) :
    placed start (xs ++ ys) =
      placed start xs ++ placed (start + (coveredEndpoints (xs.filterMap fragmentOf)).length)
        ys := by
  induction xs generalizing start with
  | nil => rfl
  | cons e rest ih =>
    have hcovered : coveredEndpoints ((e :: rest).filterMap fragmentOf) =
        coveredEndpoints (fragmentOf e).toList ++ coveredEndpoints (rest.filterMap fragmentOf) := by
      rw [← coveredEndpoints_append, List.filterMap_cons]
      cases fragmentOf e <;> rfl
    rw [List.cons_append, placed, placed, ih, hcovered, List.length_append, List.cons_append,
      Nat.add_assoc]

theorem map_snd_placed (start : Nat) (handled : List (WorkItem × Handling)) :
    (placed start handled).map Prod.snd = handled.map Prod.fst := by
  induction handled generalizing start with
  | nil => rfl
  | cons e rest ih => rw [placed, List.map_cons, List.map_cons, ih]

/-- The items that a run took up by its end, with the places where they begin: those that it
handled, and the one that it failed on. -/
def Progress.takenUp (p : Progress σ) : List (Nat × WorkItem) :=
  placed 0 p.handled ++
    p.pending.head?.toList.map fun item => ((coveredEndpoints p.fragments).length, item)

theorem Progress.length_takenUp (p : Progress σ) :
    p.takenUp.length = p.handled.length + p.pending.head?.toList.length := by
  have hplaced := congrArg List.length (map_snd_placed 0 p.handled)
  rw [List.length_map, List.length_map] at hplaced
  rw [takenUp, List.length_append, List.length_map, hplaced]

theorem Finished.length_takenUp_le {p : Progress σ} {r : Except Failure Unit × Progress σ}
    (h : Finished b signal p r) : r.2.takenUp.length ≤ p.handled.length + load p.pending := by
  have hload := h.length_handled_add_load
  have hhead : r.2.pending.head?.toList.length ≤ load r.2.pending := by
    cases r.2.pending with
    | nil => exact Nat.le_refl 0
    | cons item rest => exact Nat.le_trans item.weight_pos (Nat.le_add_right _ _)
  rw [Progress.length_takenUp]
  omega

/-- How often the endpoint `i` may still be taken up while items wait, one behind the other from a
place on: once for the item that has it, and once for every split that this item has left. -/
def allowance (i : Nat) : Nat → List WorkItem → Nat
  | _, [] => 0
  | start, item :: rest =>
    (if reaches i (start, item) then item.splitsLeft.toNat + 1 else 0) +
      allowance i (start + item.size) rest

theorem allowance_append (i start : Nat) (xs ys : List WorkItem) :
    allowance i start (xs ++ ys) =
      allowance i start xs + allowance i (start + (waitingEndpoints xs).length) ys := by
  induction xs generalizing start with
  | nil => simp [allowance]
  | cons item rest ih =>
    have hplace : start + item.size + (waitingEndpoints rest).length =
        start + (waitingEndpoints (item :: rest)).length := by
      rw [waitingEndpoints_cons, List.length_append, Nat.add_assoc]
      rfl
    rw [List.cons_append, allowance, allowance, ih, hplace, Nat.add_assoc]

/-- An endpoint is in one of the items at most. -/
theorem allowance_le {left : Int} {items : List WorkItem}
    (hleft : ∀ item ∈ items, item.splitsLeft = left) (i start : Nat) :
    allowance i start items ≤
      if start ≤ i ∧ i < start + (waitingEndpoints items).length then left.toNat + 1 else 0 := by
  induction items generalizing start with
  | nil => exact Nat.zero_le _
  | cons item rest ih =>
    obtain ⟨hitem, hrest⟩ := List.forall_mem_cons.mp hleft
    have hnext := ih hrest (start + item.size)
    have hlength : (waitingEndpoints (item :: rest)).length =
        item.size + (waitingEndpoints rest).length := List.length_append
    rw [allowance, hitem, hlength]
    simp only [reaches, Bool.and_eq_true, decide_eq_true_eq]
    split at hnext <;> split <;> split <;> omega

/-- The parts of an item may be taken up as often as the item, less once. -/
theorem allowance_parts_le {item : WorkItem} (hsplit : item.canSplit = true) (i start : Nat) :
    allowance i start item.parts ≤
      if reaches i (start, item) then item.splitsLeft.toNat else 0 := by
  have hleft : ∀ part ∈ item.parts, part.splitsLeft = item.splitsLeft - 1 := by
    intro part hpart
    obtain ⟨chunk, -, rfl⟩ := List.mem_map.mp hpart
    rfl
  have hle := allowance_le hleft i start
  have hlength : (waitingEndpoints item.parts).length = item.size :=
    congrArg List.length (waitingEndpoints_parts item)
  simp only [WorkItem.canSplit, Bool.and_eq_true, decide_eq_true_eq] at hsplit
  rw [hlength] at hle
  simp only [reaches, Bool.and_eq_true, decide_eq_true_eq]
  split at hle <;> split <;> omega

/-- What is left of an allowance when an item has been handled. -/
theorem allowance_next_le (i start : Nat) (item : WorkItem) (rest : List WorkItem) {h : Handling}
    (hsplit : h = .split → item.canSplit = true) :
    (if reaches i (start, item) then 1 else 0) +
        allowance i (start + (coveredEndpoints (fragmentOf (item, h)).toList).length)
          (item.next h ++ rest) ≤
      allowance i start (item :: rest) := by
  have hlength := congrArg List.length (coveredEndpoints_fragmentOf item h hsplit)
  rw [List.length_append] at hlength
  have hnext : (if reaches i (start, item) then 1 else 0) +
      allowance i (start + (coveredEndpoints (fragmentOf (item, h)).toList).length) (item.next h) ≤
        if reaches i (start, item) then item.splitsLeft.toNat + 1 else 0 := by
    cases h with
    | split =>
      have hcan := hsplit rfl
      have hparts := allowance_parts_le hcan i start
      rw [(WorkItem.next_split hcan).2]
      change _ + allowance i start item.parts ≤ _
      split at hparts <;> split <;> omega
    | cached | answered | mapped | cancelled =>
      simp only [WorkItem.next, allowance]
      split <;> omega
  rw [allowance_append, Nat.add_assoc start, hlength, allowance, ← Nat.add_assoc]
  exact Nat.add_le_add_right hnext _

/-- Handled items stand where they begin among the endpoints of the module, and no endpoint has been
taken up so often that it could come to be taken up more often than a budget allows. -/
structure Progress.Rationed (m : ModuleSpec) (budget : Int) (p : Progress σ) : Prop where
  tiles : p.Tiles m
  located : ∀ e ∈ placed 0 p.handled, e.2.chunk.endpoints <+: m.endpoints.drop e.1
  spent : ∀ i, (placed 0 p.handled).countP (reaches i) +
    allowance i (coveredEndpoints p.fragments).length p.pending ≤ budget.toNat + 1

namespace Progress.Rationed

variable {budget : Int} {p : Progress σ} {item : WorkItem} {rest : List WorkItem}

/-- The next item begins where the fragments end. -/
theorem located_next (h : p.Rationed m budget) (hp : p.pending = item :: rest) :
    item.chunk.endpoints <+: m.endpoints.drop (coveredEndpoints p.fragments).length := by
  have hendpoints := h.tiles.endpoints
  rw [hp, waitingEndpoints_cons] at hendpoints
  rw [← hendpoints, List.drop_left]
  exact List.prefix_append _ _

theorem placed_note (h : p.Rationed m budget) (s : σ) (handling : Handling) :
    placed 0 (p.note s item rest handling).handled =
      placed 0 p.handled ++ [((coveredEndpoints p.fragments).length, item)] := by
  rw [Progress.note, placed_append, Nat.zero_add, ← h.tiles.fragments]
  rfl

theorem note (h : p.Rationed m budget) (hp : p.pending = item :: rest) (s : σ) {handling : Handling}
    (hsplit : handling = .split → item.canSplit = true) :
    (p.note s item rest handling).Rationed m budget where
  tiles := h.tiles.note hp s hsplit
  located := by
    intro e he
    rw [h.placed_note] at he
    rcases List.mem_append.mp he with hold | hnew
    · exact h.located e hold
    · rw [List.mem_singleton.mp hnew]
      exact h.located_next hp
  spent := by
    intro i
    have hspent := h.spent i
    have hnext := allowance_next_le i (coveredEndpoints p.fragments).length item rest hsplit
    have hcovered : (coveredEndpoints (p.note s item rest handling).fragments).length =
        (coveredEndpoints p.fragments).length +
          (coveredEndpoints (fragmentOf (item, handling)).toList).length := by
      rw [Progress.note, coveredEndpoints_append, List.length_append]
      rfl
    have hpending : (p.note s item rest handling).pending = item.next handling ++ rest := rfl
    rw [h.placed_note, List.countP_append, List.countP_singleton, hcovered, hpending]
    rw [hp] at hspent
    omega

theorem poll (h : p.Rationed m budget) : (p.poll b signal).Rationed m budget :=
  ⟨h.tiles.poll, by simpa using h.located, by simpa using h.spent⟩

theorem step {r : Except Failure Unit × Progress σ} (h : p.Rationed m budget)
    (hp : p.pending = item :: rest) (hs : Stepped b p item rest r) : r.2.Rationed m budget := by
  cases hs with
  | cancelled => exact h.note hp _ (by simp)
  | handled _ hattempt => exact h.note hp _ hattempt.canSplit
  | failed => exact ⟨⟨h.tiles.endpoints, h.tiles.fragments⟩, h.located, h.spent⟩

theorem located_takenUp (h : p.Rationed m budget) :
    ∀ e ∈ p.takenUp, e.2.chunk.endpoints <+: m.endpoints.drop e.1 := by
  intro e he
  rcases List.mem_append.mp he with hhandled | hhead
  · exact h.located e hhandled
  · obtain ⟨item, hitem, rfl⟩ := List.mem_map.mp hhead
    obtain ⟨rest, hp⟩ := List.head?_eq_some_iff.mp (Option.mem_toList.mp hitem)
    exact h.located_next hp

theorem countP_takenUp_le (h : p.Rationed m budget) (i : Nat) :
    p.takenUp.countP (reaches i) ≤ budget.toNat + 1 := by
  have hspent := h.spent i
  rw [Progress.takenUp, List.countP_append]
  cases hp : p.pending with
  | nil =>
    simp only [List.head?_nil, Option.toList_none, List.map_nil, List.countP_nil]
    omega
  | cons item rest =>
    rw [hp, allowance] at hspent
    rw [List.head?_cons, Option.toList_some, List.map_singleton, List.countP_singleton]
    by_cases hreaches : reaches i ((coveredEndpoints p.fragments).length, item) = true
    · rw [if_pos hreaches] at hspent ⊢
      omega
    · rw [if_neg hreaches] at hspent ⊢
      omega

end Progress.Rationed

theorem rationed_startOf (hsize : 1 ≤ plan.size) (m : ModuleSpec) (s : σ) :
    (startOf plan m s).Rationed m plan.budget where
  tiles := tiles_startOf hsize m s
  located := by simp [startOf, placed]
  spent := by
    intro i
    have hleft : ∀ item ∈ (startOf plan m s).pending, item.splitsLeft = plan.budget := by
      intro item hitem
      obtain ⟨chunk, -, rfl⟩ := List.mem_map.mp hitem
      rfl
    have hle := allowance_le hleft i 0
    have hnone : (placed 0 (startOf plan m s).handled).countP (reaches i) = 0 := rfl
    have hcovered : (coveredEndpoints (startOf plan m s).fragments).length = 0 := rfl
    rw [hnone, hcovered]
    split at hle <;> omega

theorem Finished.rationed {budget : Int} {p : Progress σ} {r : Except Failure Unit × Progress σ}
    (h : Finished b signal p r) (hp : p.Rationed m budget) : r.2.Rationed m budget :=
  h.invariant hp (fun _ => Progress.Rationed.poll) fun _ _ _ _ hpending hp hs => hp.step hpending hs

/-! ### Bounded work -/

/-- A run comes to an end, with nothing left or in an attempt that fails, and does no more than so
much: it takes up a bounded number of items, and calls the model no more often; an item has the
endpoints from its place on, and no endpoint, be there another one like it, is in more items than
the budget allows. -/
structure BoundedWork (b : Backend σ) (plan : Plan) (m : ModuleSpec) (s : σ) : Prop where
  ended : (∃ api, (transform b plan m s).result = .ok api ∧
    (transform b plan m s).progress.pending = []) ∨
    ∃ e item rest t, (transform b plan m s).result = .error e ∧
      (transform b plan m s).progress.pending = item :: rest ∧
      Attempted b item t (.error e, (transform b plan m s).progress.state)
  items : (transform b plan m s).progress.takenUp.length ≤
    workBound plan.size.toNat m.endpoints.length
  single : m.endpoints = [] → (transform b plan m s).progress.takenUp.length = 1
  calls : (effects b plan m s).countP Effect.isCall ≤ workBound plan.size.toNat m.endpoints.length
  counted : (transform b plan m s).progress.stats.calls ≤
    workBound plan.size.toNat m.endpoints.length
  located : ∀ e ∈ (transform b plan m s).progress.takenUp,
    e.2.chunk.endpoints <+: m.endpoints.drop e.1
  repeats : ∀ i, (transform b plan m s).progress.takenUp.countP (reaches i) ≤ plan.budget.toNat + 1

theorem transform_ended (b : Backend σ) (hsize : 1 ≤ plan.size) (m : ModuleSpec) (s : σ) :
    (∃ api, (transform b plan m s).result = .ok api ∧
      (transform b plan m s).progress.pending = []) ∨
    ∃ e item rest t, (transform b plan m s).result = .error e ∧
      (transform b plan m s).progress.pending = item :: rest ∧
      Attempted b item t (.error e, (transform b plan m s).progress.state) := by
  rcases transform_cases b m s hsize with ⟨q, hq, ho⟩ | ⟨e, q, hq, ho⟩
  · rw [ho]
    exact .inl ⟨_, rfl, hq.pending_eq_nil⟩
  · obtain ⟨p, item, rest, -, hpending, hp, hattempt⟩ :=
      hq.exists_attempted (I := fun _ => True) trivial (fun _ _ => trivial) fun _ _ _ _ _ _ _ =>
        trivial
    rw [ho]
    refine .inr ⟨e, item, rest, p.state, rfl, ?_, hattempt⟩
    rw [hp]
    exact hpending

/-- Whatever storage, model and signal do, a run over a module is bounded. -/
theorem bounded_work (b : Backend σ) {plan : Plan} (m : ModuleSpec) (s : σ)
    (hsize : 1 ≤ plan.size) :
    BoundedWork b plan m s := by
  obtain ⟨r, hr, hpending, hfragments, hhandled, -⟩ := transform_finished b m s hsize
  have htaken : (transform b plan m s).progress.takenUp = r.2.takenUp := by
    rw [Progress.takenUp, hpending, hfragments, hhandled, Progress.takenUp]
  have hrationed := hr.rationed (rationed_startOf hsize m s)
  have hitems : r.2.takenUp.length ≤ workBound plan.size.toNat m.endpoints.length := by
    rw [← load_chunks m (by omega) plan.budget]
    exact Nat.le_trans hr.length_takenUp_le (Nat.le_of_eq (Nat.zero_add _))
  have hlength := Progress.length_takenUp (transform b plan m s).progress
  rw [htaken] at hlength
  refine ⟨transform_ended b hsize m s, htaken ▸ hitems, fun hnone => ?_, ?_, ?_,
    htaken ▸ hrationed.located_takenUp, htaken ▸ hrationed.countP_takenUp_le⟩
  · have hstart : (startOf plan m s).pending ≠ [] := by
      simp [startOf, ModuleSpec.chunks, ModuleSpec.fits, hnone]
    rw [hnone] at hitems
    rw [htaken]
    rcases hr.handled_or_pending (.inr hstart) with hne | hne
    · have hpos := List.length_pos_iff.mpr hne
      rw [← hhandled] at hpos
      simp only [workBound, List.length_nil, if_true] at hitems
      omega
    · obtain ⟨item, rest, hcons⟩ := List.exists_cons_of_ne_nil hne
      rw [← hpending] at hcons
      rw [hcons, List.head?_cons, Option.toList_some, List.length_singleton] at hlength
      simp only [workBound, List.length_nil, if_true] at hitems
      omega
  · have hcalls := calls_effects_le (b := b) (m := m) (s := s) hsize
    omega
  · obtain ⟨chunks, hstats⟩ := stats_transform b hsize m s
    have hcalls : (tally (transform b plan m s).progress.handled).calls ≤ _ := List.countP_le_length
    rw [hstats]
    exact Nat.le_trans hcalls (by omega)

/-- Four endpoints and a model that finds every chunk too long: seven items at most, and no endpoint
in more than four of them. -/
theorem bounded_work_overwhelmed :
    (1 : Int) ≤ ({ size := 4 } : Plan).size ∧ BoundedWork overwhelmed { size := 4 } itemModule () :=
  ⟨by decide, bounded_work overwhelmed itemModule () (by decide)⟩

end ServiceMigration.Run
