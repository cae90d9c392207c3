import ServiceMigration.Proofs.Run.Coverage
import ServiceMigration.Proofs.Run.Effects
/-!
# The turns of a run

A run takes up one item after the other.  To each belongs a turn: the signal is asked, if it is
asked at all, then storage and model are asked for the item, and then it is noted what came of it.
The turns of a run tell all that there is to see of it (`recounts_transform`), in the order in which
it happened (`trace`).
-/

namespace ServiceMigration.Run

open Completion

variable {σ : Type} {b : Backend σ} {signal : Option (Nat → Bool)} {plan : Plan}
  {m : ModuleSpec} {s : σ}

/-- What happens while an item is at hand and the items `behind` it wait. -/
structure Turn where
  item : WorkItem
  behind : List WorkItem
  /-- The answer of the signal, if it was asked. -/
  answer : Option Bool
  effects : List Effect
  outcome : Except Failure Handling

/-- What can be seen of a run. -/
inductive Event where
  | polled (answer : Bool)
  | did (effect : Effect)
  | gave (fragment : Fragment)

namespace Turn

def waiting (t : Turn) : List WorkItem := t.item :: t.behind

def failure? (t : Turn) : Option Failure :=
  match t.outcome with
  | .error e => some e
  | .ok _ => none

/-- The item with what came of it, unless the run ended with it. -/
def entry? (t : Turn) : Option (WorkItem × Handling) :=
  match t.outcome with
  | .error _ => none
  | .ok h => some (t.item, h)

def fragment? (t : Turn) : Option Fragment := t.entry?.bind fragmentOf

def events (t : Turn) : List Event :=
  (t.answer.map Event.polled).toList ++ t.effects.map Event.did ++
    (t.fragment?.map Event.gave).toList

end Turn

/-- How a run with these turns ends. -/
def endOf (turns : List Turn) : Except Failure Unit :=
  match turns.findSome? Turn.failure? with
  | some e => .error e
  | none => .ok ()

theorem endOf_cons_of_some {t : Turn} {e : Failure} (h : t.failure? = some e) (ts : List Turn) :
    endOf (t :: ts) = .error e := by
  rw [endOf, List.findSome?_cons, h]

theorem endOf_cons_of_none {t : Turn} (h : t.failure? = none) (ts : List Turn) :
    endOf (t :: ts) = endOf ts := by
  rw [endOf, List.findSome?_cons, h, endOf]

/-- What an item asks of storage and model, from a state on. -/
def attemptEffects (b : Backend σ) (item : WorkItem) (s : σ) : List Effect :=
  (attempt b.traced item (s, [])).2.2

namespace Progress

/-- The answer of the signal to the next poll, if there is one. -/
def answer? (signal : Option (Nat → Bool)) (p : Progress σ) : Option Bool :=
  match signal with
  | none => none
  | some asked => if p.isCancelled then none else some (asked p.polls)

/-- The turn of the first item. -/
def turn (b : Backend σ) (signal : Option (Nat → Bool)) (p : Progress σ) (item : WorkItem)
    (rest : List WorkItem) : Turn :=
  if (p.poll b signal).isCancelled then
    { item, behind := rest, answer := p.answer? signal, effects := [], outcome := .ok .cancelled }
  else
    { item
      behind := rest
      answer := p.answer? signal
      effects := attemptEffects b item (p.poll b signal).state
      outcome := (attempt b item (p.poll b signal).state).1 }

/-- The turns until nothing is left, or until something fails for good. -/
def turns (b : Backend σ) (signal : Option (Nat → Bool)) (p : Progress σ) : List Turn :=
  match _hp : p.pending with
  | [] => []
  | item :: rest =>
    p.turn b signal item rest ::
      match _hs : step b (p.poll b signal) item rest with
      | (.error _, _) => []
      | (.ok (), q) => turns b signal q
termination_by load p.pending
decreasing_by
  rw [_hp]
  exact load_step_lt b _ item rest _hs

theorem turns_nil {p : Progress σ} (hpending : p.pending = []) : p.turns b signal = [] := by
  rw [turns]
  split
  · rfl
  · next hcons => simp [hpending] at hcons

theorem turns_cons {p q : Progress σ} {item : WorkItem} {rest : List WorkItem}
    (hpending : p.pending = item :: rest)
    (hstep : (p.poll b signal).step b item rest = (.ok (), q)) :
    p.turns b signal = p.turn b signal item rest :: q.turns b signal := by
  rw [turns]
  split
  · next hnil => simp [hnil] at hpending
  · next hcons =>
    obtain ⟨rfl, rfl⟩ := List.cons.inj (hcons.symm.trans hpending)
    split
    · next herror => simp [hstep] at herror
    · next hok =>
      obtain ⟨-, rfl⟩ := Prod.mk.inj (hstep.symm.trans hok)
      rfl

theorem turns_cons_error {p q : Progress σ} {item : WorkItem} {rest : List WorkItem} {e : Failure}
    (hpending : p.pending = item :: rest)
    (hstep : (p.poll b signal).step b item rest = (.error e, q)) :
    p.turns b signal = [p.turn b signal item rest] := by
  rw [turns]
  split
  · next hnil => simp [hnil] at hpending
  · next hcons =>
    obtain ⟨rfl, rfl⟩ := List.cons.inj (hcons.symm.trans hpending)
    split
    · rfl
    · next hok => simp [hstep] at hok

/-- A step does what the turn of its item says. -/
theorem exists_step (b : Backend σ) (signal : Option (Nat → Bool)) (p : Progress σ)
    (item : WorkItem) (rest : List WorkItem) :
    ∃ t, (p.poll b signal).step b item rest =
      match (p.turn b signal item rest).outcome with
      | .error e => (.error e, { p.poll b signal with state := t })
      | .ok h => (.ok (), (p.poll b signal).note t item rest h) := by
  unfold step turn
  split
  · exact ⟨_, rfl⟩
  · rcases attempt b item (p.poll b signal).state with ⟨e | h, t⟩
    · exact ⟨t, rfl⟩
    · exact ⟨t, rfl⟩

theorem failure?_turn_of_error {p q : Progress σ} {item : WorkItem} {rest : List WorkItem}
    {e : Failure} (hstep : (p.poll b signal).step b item rest = (.error e, q)) :
    (p.turn b signal item rest).failure? = some e := by
  obtain ⟨t, hturn⟩ := p.exists_step b signal item rest
  rw [hstep] at hturn
  cases houtcome : (p.turn b signal item rest).outcome with
  | error e' =>
    simp only [houtcome, Prod.mk.injEq, Except.error.injEq] at hturn
    rw [Turn.failure?, houtcome, hturn.1]
  | ok h => simp [houtcome] at hturn

theorem failure?_turn_of_ok {p q : Progress σ} {item : WorkItem} {rest : List WorkItem}
    (hstep : (p.poll b signal).step b item rest = (.ok (), q)) :
    (p.turn b signal item rest).failure? = none := by
  obtain ⟨t, hturn⟩ := p.exists_step b signal item rest
  rw [hstep] at hturn
  cases houtcome : (p.turn b signal item rest).outcome with
  | error e => simp [houtcome] at hturn
  | ok h => rw [Turn.failure?, houtcome]

@[simp] theorem turn_item (p : Progress σ) (item : WorkItem) (rest : List WorkItem) :
    (p.turn b signal item rest).item = item := by
  unfold turn
  split <;> rfl

@[simp] theorem turn_behind (p : Progress σ) (item : WorkItem) (rest : List WorkItem) :
    (p.turn b signal item rest).behind = rest := by
  unfold turn
  split <;> rfl

@[simp] theorem turn_answer (p : Progress σ) (item : WorkItem) (rest : List WorkItem) :
    (p.turn b signal item rest).answer = p.answer? signal := by
  unfold turn
  split <;> rfl

theorem poll_polls (b : Backend σ) (signal : Option (Nat → Bool)) (p : Progress σ) :
    (p.poll b signal).polls = p.polls + (p.answer? signal).toList.length := by
  unfold poll answer?
  split
  · rfl
  · split
    · rfl
    · split <;> rfl

end Progress

/-! ### What the turns tell -/

/-- A run has gone on from `p` to `q` by these turns. -/
structure Progress.GoesOn (p : Progress σ) (turns : List Turn) (q : Progress σ) : Prop where
  handled : q.handled = p.handled ++ turns.filterMap Turn.entry?
  fragments : q.fragments = p.fragments ++ turns.filterMap Turn.fragment?
  polls : q.polls = p.polls + (turns.filterMap Turn.answer).length

namespace Progress.GoesOn

variable {p q r : Progress σ} {ts us : List Turn}

theorem refl (p : Progress σ) : p.GoesOn [] p := ⟨by simp, by simp, rfl⟩

theorem trans (h : p.GoesOn ts q) (h' : q.GoesOn us r) : p.GoesOn (ts ++ us) r where
  handled := by rw [h'.handled, h.handled, List.filterMap_append, List.append_assoc]
  fragments := by rw [h'.fragments, h.fragments, List.filterMap_append, List.append_assoc]
  polls := by rw [h'.polls, h.polls, List.filterMap_append, List.length_append, Nat.add_assoc]

theorem step (b : Backend σ) (signal : Option (Nat → Bool)) (p : Progress σ) (item : WorkItem)
    (rest : List WorkItem) :
    p.GoesOn [p.turn b signal item rest] ((p.poll b signal).step b item rest).2 := by
  have hpolls : (p.poll b signal).polls =
      p.polls + ([p.turn b signal item rest].filterMap Turn.answer).length := by
    rw [poll_polls, List.filterMap_cons, turn_answer]
    cases p.answer? signal <;> rfl
  obtain ⟨t, hstep⟩ := p.exists_step b signal item rest
  rw [hstep]
  cases houtcome : (p.turn b signal item rest).outcome with
  | error e =>
    refine ⟨?_, ?_, hpolls⟩
    · simp [Turn.entry?, houtcome]
    · simp [Turn.fragment?, Turn.entry?, houtcome]
  | ok h =>
    refine ⟨?_, ?_, hpolls⟩
    · simp [Turn.entry?, houtcome, note]
    · simp only [note, poll_fragments, List.filterMap_cons, List.filterMap_nil,
        Turn.fragment?, Turn.entry?, houtcome, turn_item, Option.bind_some]
      cases hfragment : fragmentOf (item, h) <;> simp_all [fragmentOf]

end Progress.GoesOn

namespace Progress

/-- A run ends as its turns say, and has gone on by them. -/
theorem finish_spec (b : Backend σ) (signal : Option (Nat → Bool)) (p : Progress σ) :
    (p.finish b signal).1 = endOf (p.turns b signal) ∧ p.GoesOn (p.turns b signal)
    (p.finish b signal).2 := by
  fun_induction finish b signal p with
  | case1 p hpending =>
    rw [turns_nil hpending]
    exact ⟨rfl, .refl p⟩
  | case2 p item rest hpending e q hstep =>
    rw [turns_cons_error hpending hstep]
    constructor
    · exact (endOf_cons_of_some (failure?_turn_of_error hstep) []).symm
    · have hgoes := GoesOn.step b signal p item rest
      rwa [hstep] at hgoes
  | case3 p item rest hpending q hstep ih =>
    rw [turns_cons hpending hstep]
    constructor
    · rw [endOf_cons_of_none (failure?_turn_of_ok hstep)]
      exact ih.1
    · have hgoes := GoesOn.step b signal p item rest
      rw [hstep] at hgoes
      exact hgoes.trans ih.2

/-- Only the last turn of a run can be one that fails. -/
theorem failure?_of_lt (p : Progress σ) {k : Nat} {last : Turn}
    (hlast : (p.turns b signal)[k]? = some last) :
    ∀ t ∈ (p.turns b signal).take k, t.failure? = none := by
  fun_induction finish b signal p generalizing k with
  | case1 p hpending =>
    rw [turns_nil hpending] at hlast
    simp at hlast
  | case2 p item rest hpending e q hstep =>
    rw [turns_cons_error hpending hstep] at hlast ⊢
    have hzero : k = 0 := by
      have hlt := (List.getElem?_eq_some_iff.mp hlast).1
      simpa using hlt
    simp [hzero]
  | case3 p item rest hpending q hstep ih =>
    rw [turns_cons hpending hstep] at hlast ⊢
    cases k with
    | zero => simp
    | succ k =>
      rw [List.getElem?_cons_succ] at hlast
      rw [List.take_succ_cons, List.forall_mem_cons]
      constructor
      · exact failure?_turn_of_ok hstep
      · exact ih hlast

end Progress

/-! ### Effects -/

/-- What was asked before is kept, and makes no difference. -/
theorem traced_hom_append (b : Backend σ) (before : List Effect) :
    b.traced.Hom b.traced fun t => (t.1, before ++ t.2) where
  lookup _ _ := by simp [Backend.traced]
  generate _ _ := by simp [Backend.traced]
  store _ _ _ := by simp [Backend.traced]
  record _ _ := rfl

theorem attempt_traced (b : Backend σ) (item : WorkItem) (t : σ × List Effect) :
    attempt b.traced item t =
      ((attempt b item t.1).1, (attempt b item t.1).2, t.2 ++ attemptEffects b item t.1) := by
  have happend := (traced_hom_append b t.2).attempt item (t.1, [])
  have hview := (traced_hom b).attempt item (t.1, [])
  rw [List.append_nil] at happend
  rw [happend, hview, attemptEffects]

/-- A step adds the effects of its turn to what was done before. -/
theorem Progress.step_traced (b : Backend σ) (signal : Option (Nat → Bool))
    (p : Progress (σ × List Effect)) (item : WorkItem) (rest : List WorkItem) :
    ((p.poll b.traced signal).step b.traced item rest).2.state.2 =
      p.state.2 ++ ((p.view Prod.fst).turn b signal item rest).effects := by
  have hview : (p.view Prod.fst).poll b signal = (p.poll b.traced signal).view Prod.fst :=
    (traced_hom b).poll p
  rw [← poll_traced b signal p, turn, hview]
  unfold step
  split
  · next hcancelled => simp [view, hcancelled, note]
  · next hgo =>
    simp only [view, hgo, Bool.false_eq_true, if_false, attempt_traced]
    rcases attempt b item (p.poll b.traced signal).state.1 with ⟨e | h, t⟩ <;> rfl

/-- The effects of a run are those of its turns, one after the other. -/
theorem finish_traced (b : Backend σ) (signal : Option (Nat → Bool))
    (p : Progress (σ × List Effect)) :
    (p.finish b.traced signal).2.state.2 =
      p.state.2 ++ ((p.view Prod.fst).turns b signal).flatMap Turn.effects := by
  fun_induction Progress.finish b.traced signal p with
  | case1 p hpending =>
    have hview : (p.view Prod.fst).pending = [] := hpending
    rw [Progress.turns_nil hview, List.flatMap_nil, List.append_nil]
  | case2 p item rest hpending e q hstep =>
    have hview : (p.view Prod.fst).pending = item :: rest := hpending
    have hstep' : ((p.view Prod.fst).poll b signal).step b item rest =
        (.error e, q.view Prod.fst) := by
      rw [(traced_hom b).poll, (traced_hom b).step, hstep]
    have hstate := p.step_traced b signal item rest
    rw [hstep] at hstate
    rw [Progress.turns_cons_error hview hstep', List.flatMap_singleton, hstate]
  | case3 p item rest hpending q hstep ih =>
    have hview : (p.view Prod.fst).pending = item :: rest := hpending
    have hstep' : ((p.view Prod.fst).poll b signal).step b item rest =
        (.ok (), q.view Prod.fst) := by
      rw [(traced_hom b).poll, (traced_hom b).step, hstep]
    have hstate := p.step_traced b signal item rest
    rw [hstep] at hstate
    rw [Progress.turns_cons hview hstep', List.flatMap_cons, ih, hstate, List.append_assoc]

/-! ### The turns of a run over a module -/

/-- The turns of a run; a run whose plan has no size for chunks has none. -/
def turns (b : Backend σ) (plan : Plan) (m : ModuleSpec) (s : σ) : List Turn :=
  match m.chunksOf plan.size with
  | .error _ => []
  | .ok _ => (startOf plan m s).turns b plan.signal

/-- All that can be seen of a run, in the order in which it happens. -/
def trace (b : Backend σ) (plan : Plan) (m : ModuleSpec) (s : σ) : List Event :=
  (turns b plan m s).flatMap Turn.events

/-- What a run has done in the end is what its turns tell. -/
structure Recounts (b : Backend σ) (plan : Plan) (m : ModuleSpec) (s : σ) (turns : List Turn) :
    Prop where
  effects : effects b plan m s = turns.flatMap Turn.effects
  handled : (transform b plan m s).progress.handled = turns.filterMap Turn.entry?
  fragments : (transform b plan m s).progress.fragments = turns.filterMap Turn.fragment?
  polls : (transform b plan m s).progress.polls = (turns.filterMap Turn.answer).length

theorem turns_eq (b : Backend σ) (m : ModuleSpec) (s : σ) (hsize : 1 ≤ plan.size) :
    turns b plan m s = (startOf plan m s).turns b plan.signal := by
  rw [turns, ModuleSpec.chunksOf_of_one_le hsize]

theorem turns_of_lt_one (b : Backend σ) (m : ModuleSpec) (s : σ) (hsize : ¬ 1 ≤ plan.size) :
    turns b plan m s = [] := by
  rw [turns, ModuleSpec.chunksOf_of_lt_one hsize]

/-- In the end a run has handled what it had when nothing was left, whatever it then writes down. -/
theorem transform_progress (b : Backend σ) (m : ModuleSpec) (s : σ) (hsize : 1 ≤ plan.size) :
    (transform b plan m s).progress.handled = ((startOf plan m s).finish b plan.signal).2.handled ∧
      (transform b plan m s).progress.fragments =
        ((startOf plan m s).finish b plan.signal).2.fragments ∧
      (transform b plan m s).progress.polls =
        ((startOf plan m s).finish b plan.signal).2.polls := by
  rw [transform_eq b m s hsize]
  rcases (startOf plan m s).finish b plan.signal with ⟨e | u, q⟩
  · exact ⟨rfl, rfl, rfl⟩
  · exact ⟨rfl, rfl, rfl⟩

theorem effects_eq (b : Backend σ) (m : ModuleSpec) (s : σ) (hsize : 1 ≤ plan.size) :
    effects b plan m s = ((startOf plan m (s, [])).finish b.traced plan.signal).2.state.2 := by
  rw [effects, transform_eq b.traced m (s, []) hsize]
  rcases (startOf plan m (s, [])).finish b.traced plan.signal with ⟨e | u, q⟩
  · rfl
  · exact recordAll_traced b _ q.state

/-- The turns of a run tell what it does. -/
theorem recounts_transform (b : Backend σ) (plan : Plan) (m : ModuleSpec) (s : σ) :
    Recounts b plan m s (turns b plan m s) := by
  by_cases hsize : 1 ≤ plan.size
  · obtain ⟨-, hgoes⟩ := (startOf plan m s).finish_spec b plan.signal
    obtain ⟨hhandled, hfragments, hpolls⟩ := transform_progress b m s hsize
    rw [turns_eq b m s hsize]
    constructor
    · rw [effects_eq b m s hsize, finish_traced]
      rfl
    · rw [hhandled, hgoes.handled]
      rfl
    · rw [hfragments, hgoes.fragments]
      rfl
    · rw [hpolls, hgoes.polls]
      exact Nat.zero_add _
  · rw [turns_of_lt_one b m s hsize]
    constructor
    · rw [effects, transform_of_lt_one b.traced m (s, []) hsize]
      rfl
    all_goals
      rw [transform_of_lt_one b m s hsize]
      rfl

theorem result_of_endOf (hsize : 1 ≤ plan.size) (hend : endOf (turns b plan m s) = .ok ()) :
    (transform b plan m s).result =
      .ok (ApiSpec.merge ((transform b plan m s).progress.fragments.map Fragment.answer)) := by
  obtain ⟨hfinish, -⟩ := (startOf plan m s).finish_spec b plan.signal
  rw [← turns_eq b m s hsize, hend] at hfinish
  rw [transform_eq b m s hsize]
  rcases hq : (startOf plan m s).finish b plan.signal with ⟨e | u, q⟩
  · simp [hq] at hfinish
  · rfl

end ServiceMigration.Run
