import ServiceMigration.Proofs.Run.Turns
/-!
# Cancelling a run

A run that is asked whether to go on is the run that is not asked, up to the first time that the
answer is no (`turns_signal`).  From then on nothing is asked of storage and model, and every item
that waits is mapped by rule (`turns_of_isCancelled`).  Main statement:
`cancellation_prompt_and_final`.
-/

namespace ServiceMigration.Run

open Completion

variable {σ : Type} {b : Backend σ} {signal : Option (Nat → Bool)} {asked : Nat → Bool}
  {plan : Plan} {m : ModuleSpec} {s : σ}

/-! ### After the cancellation -/

/-- The turns of items that are given up, where the first one still hears the answer that gives them
up. -/
def abandon : Option Bool → List WorkItem → List Turn
  | _, [] => []
  | answer, item :: rest =>
    { item, behind := rest, answer, effects := [], outcome := .ok .cancelled } :: abandon none rest

theorem Progress.poll_of_isCancelled {p : Progress σ} (hp : p.isCancelled = true) :
    p.poll b signal = p := by
  unfold poll
  split
  · rfl
  · rw [if_pos hp]

theorem Progress.step_of_isCancelled {p : Progress σ} (hp : p.isCancelled = true) (item : WorkItem)
    (rest : List WorkItem) : p.step b item rest =
      (.ok (), p.note p.state item rest .cancelled) := by
  rw [step, if_pos hp]

/-- An item that is given up has no parts: the others wait as before. -/
theorem Progress.turns_cons_of_isCancelled {p : Progress σ} {item : WorkItem} {rest : List WorkItem}
    (hpending : p.pending = item :: rest) (hpoll : (p.poll b signal).isCancelled = true) :
    p.turns b signal =
      { item, behind := rest, answer := p.answer? signal, effects := [],
        outcome := .ok .cancelled } ::
        ((p.poll b signal).note (p.poll b signal).state item rest .cancelled).turns b signal := by
  rw [turns_cons hpending (step_of_isCancelled hpoll item rest), turn, if_pos hpoll]

theorem Progress.turns_of_isCancelled {p : Progress σ} (hp : p.isCancelled = true) :
    p.turns b signal = abandon none p.pending := by
  generalize hitems : p.pending = items
  induction items generalizing p with
  | nil => rw [turns_nil hitems, abandon]
  | cons item rest ih =>
    have hanswer : p.answer? signal = none := by
      unfold answer?
      split
      · rfl
      · rw [if_pos hp]
    have hpoll : (p.poll b signal).isCancelled = true := by
      rw [poll_of_isCancelled hp]
      exact hp
    rw [turns_cons_of_isCancelled hitems hpoll, hanswer, abandon]
    congr 1
    apply ih
    · exact hpoll
    · rfl

/-- Where the signal cancels the run, the item at hand and all that wait behind it are given up. -/
theorem Progress.turns_of_poll_isCancelled {p : Progress σ} {item : WorkItem} {rest : List WorkItem}
    (hpending : p.pending = item :: rest) (hpoll : (p.poll b signal).isCancelled = true) :
    p.turns b signal = abandon (p.answer? signal) (item :: rest) := by
  have hrest :
      ((p.poll b signal).note (p.poll b signal).state item rest .cancelled).turns b signal =
        abandon none rest :=
    turns_of_isCancelled hpoll
  rw [turns_cons_of_isCancelled hpending hpoll, hrest, abandon]

section Abandon

variable (answer : Option Bool) (items : List WorkItem)

theorem effects_abandon : (abandon answer items).flatMap Turn.effects = [] := by
  induction items generalizing answer with
  | nil => rfl
  | cons item rest ih => exact ih none

theorem failure?_of_mem_abandon : ∀ t ∈ abandon answer items, t.failure? = none := by
  induction items generalizing answer with
  | nil => simp [abandon]
  | cons item rest ih =>
    rw [abandon, List.forall_mem_cons]
    exact ⟨rfl, ih none⟩

/-- Each of them gives the fragment that the mapping makes of its chunk. -/
theorem fragments_abandon : (abandon answer items).filterMap Turn.fragment? =
    items.map fun item => ⟨item.chunk, Mapping.api item.chunk⟩ := by
  induction items generalizing answer with
  | nil => rfl
  | cons item rest ih => exact congrArg (_ :: ·) (ih none)

/-- Only the first of them is asked for. -/
theorem answers_abandon (item : WorkItem) :
    (abandon answer (item :: items)).filterMap Turn.answer = answer.toList := by
  have hnone : (abandon none items).filterMap Turn.answer = [] := by
    induction items with
    | nil => rfl
    | cons item rest ih => exact ih
  rw [abandon, List.filterMap_cons, hnone]
  cases answer <;> rfl

end Abandon

/-! ### Until the cancellation -/

/-- The turn, had the signal been asked and said to go on. -/
def Turn.heard (t : Turn) : Turn := { t with answer := some false }

/-- The turns of a run that is not asked, as they are if the signal is asked from the `n`-th poll
on. -/
def interrupt (asked : Nat → Bool) : Nat → List Turn → List Turn
  | _, [] => []
  | n, t :: ts => if asked n then abandon (some true) t.waiting else t.heard ::
      interrupt asked (n + 1) ts

/-- The same progress after so many polls. -/
def Progress.withPolls (p : Progress σ) (n : Nat) : Progress σ := { p with polls := n }

@[simp] theorem Progress.withPolls_state (p : Progress σ) (n : Nat) :
    (p.withPolls n).state = p.state := rfl

@[simp] theorem Progress.withPolls_isCancelled (p : Progress σ) (n : Nat) :
    (p.withPolls n).isCancelled = p.isCancelled := rfl

section Signal

variable {p : Progress σ} {n : Nat}

theorem Progress.poll_withPolls_of_go (hgo : p.isCancelled = false) (hasked : asked n = false) :
    (p.withPolls n).poll b (some asked) = p.withPolls (n + 1) := by
  simp [poll, withPolls, hgo, hasked]

theorem Progress.answer?_withPolls (hgo : p.isCancelled = false) :
    (p.withPolls n).answer? (some asked) = some (asked n) := by
  simp [answer?, withPolls, hgo]

theorem Progress.step_withPolls (b : Backend σ) (p : Progress σ) (n : Nat) (item : WorkItem)
    (rest : List WorkItem) :
    (p.withPolls n).step b item rest =
      ((p.step b item rest).1, (p.step b item rest).2.withPolls n) := by
  by_cases hcancelled : p.isCancelled = true
  · rw [step_of_isCancelled hcancelled, step_of_isCancelled (p := p.withPolls n) hcancelled]
    rfl
  · rw [step, step, withPolls_isCancelled, withPolls_state, if_neg hcancelled, if_neg hcancelled]
    rcases attempt b item p.state with ⟨e | h, t⟩ <;> rfl

theorem Progress.step_withPolls_of_go (hgo : p.isCancelled = false) (hasked : asked n = false)
    {item : WorkItem} {rest : List WorkItem} {result : Except Failure Unit} {q : Progress σ}
    (hstep : (p.poll b none).step b item rest = (result, q)) :
    ((p.withPolls n).poll b (some asked)).step b item rest = (result, q.withPolls (n + 1)) := by
  rw [poll_withPolls_of_go hgo hasked, step_withPolls]
  exact congrArg (fun r => (r.1, r.2.withPolls (n + 1))) hstep

theorem Progress.turn_withPolls_of_go (hgo : p.isCancelled = false) (hasked : asked n = false)
    (item : WorkItem) (rest : List WorkItem) :
    (p.withPolls n).turn b (some asked) item rest = (p.turn b none item rest).heard := by
  unfold turn
  rw [poll_withPolls_of_go hgo hasked, answer?_withPolls hgo, hasked]
  simp [withPolls, poll, hgo, Turn.heard]

theorem Progress.isCancelled_of_step {q : Progress σ} {item : WorkItem} {rest : List WorkItem}
    (hgo : p.isCancelled = false) (hstep : (p.poll b none).step b item rest = (.ok (), q)) :
    q.isCancelled = false := by
  have hs := stepped b p item rest
  rw [show p.step b item rest = (.ok (), q) from hstep] at hs
  cases hs with
  | cancelled hcancelled => simp [hcancelled] at hgo
  | handled => exact hgo

/-- The signal says to stop before a turn that the run would have had, whatever turns would come
after it. -/
theorem Progress.turns_of_asked {item : WorkItem} {rest : List WorkItem}
    (hgo : p.isCancelled = false)
    (hpending : p.pending = item :: rest) (hasked : asked n = true) (ts : List Turn) :
    (p.withPolls n).turns b (some asked) = interrupt asked n (p.turn b none item rest :: ts) := by
  have hpoll : ((p.withPolls n).poll b (some asked)).isCancelled = true := by
    simp [poll, withPolls, hgo, hasked]
  have hwaiting : (p.withPolls n).pending = item :: rest := hpending
  rw [turns_of_poll_isCancelled hwaiting hpoll, answer?_withPolls hgo, interrupt, hasked,
    if_pos rfl, Turn.waiting, turn_item, turn_behind]

/-- A run that is asked has the turns of the run that is not asked, until the answer is no. -/
theorem Progress.turns_signal (b : Backend σ) (asked : Nat → Bool) (n : Nat) (p : Progress σ)
    (hgo : p.isCancelled = false) :
    (p.withPolls n).turns b (some asked) = interrupt asked n (p.turns b none) := by
  fun_induction finish b none p generalizing n with
  | case1 p hpending =>
    rw [turns_nil hpending, turns_nil (p := p.withPolls n) hpending, interrupt]
  | case2 p item rest hpending e q hstep =>
    rw [turns_cons_error hpending hstep]
    by_cases hasked : asked n = true
    · exact turns_of_asked hgo hpending hasked []
    · rw [Bool.not_eq_true] at hasked
      have hstep' := step_withPolls_of_go hgo hasked hstep
      rw [interrupt, turns_cons_error (p := p.withPolls n) hpending hstep',
        turn_withPolls_of_go hgo hasked, hasked]
      rfl
  | case3 p item rest hpending q hstep ih =>
    rw [turns_cons hpending hstep]
    by_cases hasked : asked n = true
    · exact turns_of_asked hgo hpending hasked _
    · rw [Bool.not_eq_true] at hasked
      have hstep' := step_withPolls_of_go hgo hasked hstep
      rw [interrupt, turns_cons (p := p.withPolls n) hpending hstep',
        turn_withPolls_of_go hgo hasked, hasked, ih (n + 1) (isCancelled_of_step hgo hstep)]
      rfl

/-- A run that is asked but never told to stop is the run that is not asked, but for the polls. -/
theorem Progress.finish_signal (b : Backend σ) (asked : Nat → Bool) (n : Nat) (p : Progress σ)
    (hgo : p.isCancelled = false) (hno : ∀ i < (p.turns b none).length, asked (n + i) = false) :
    (p.withPolls n).finish b (some asked) =
      ((p.finish b none).1, (p.finish b none).2.withPolls (n + (p.turns b none).length)) := by
  fun_induction finish b none p generalizing n with
  | case1 p hpending =>
    rw [finish_nil (p := p.withPolls n) hpending, turns_nil hpending]
    rfl
  | case2 p item rest hpending e q hstep =>
    rw [turns_cons_error hpending hstep] at hno ⊢
    have hasked : asked n = false := hno 0 Nat.one_pos
    exact finish_cons_error (p := p.withPolls n) hpending (step_withPolls_of_go hgo hasked hstep)
  | case3 p item rest hpending q hstep ih =>
    rw [turns_cons hpending hstep] at hno ⊢
    have hasked : asked n = false := hno 0 (Nat.succ_pos _)
    have hstep' := step_withPolls_of_go hgo hasked hstep
    have hcount : n + ((q.turns b none).length + 1) = n + 1 + (q.turns b none).length := by omega
    rw [finish_cons (p := p.withPolls n) hpending hstep', List.length_cons, hcount]
    apply ih
    · exact isCancelled_of_step hgo hstep
    · intro i hi
      rw [Nat.add_assoc, Nat.add_comm 1 i]
      exact hno (i + 1) (Nat.succ_lt_succ hi)

theorem Progress.answer_of_mem_turns (p : Progress σ) : ∀ t ∈ p.turns b none, t.answer = none := by
  fun_induction finish b none p with
  | case1 p hpending => simp [turns_nil hpending]
  | case2 p item rest hpending e q hstep => simp [turns_cons_error hpending hstep, answer?]
  | case3 p item rest hpending q hstep ih =>
    rw [turns_cons hpending hstep, List.forall_mem_cons]
    exact ⟨turn_answer p item rest, ih⟩

end Signal

/-- The signal never says to stop while there are turns, or it does so first before a certain
turn. -/
theorem interrupt_cases (asked : Nat → Bool) (n : Nat) (ts : List Turn) :
    ((∀ i < ts.length, asked (n + i) = false) ∧ interrupt asked n ts = ts.map Turn.heard) ∨
      ∃ k stop, ts[k]? = some stop ∧ (∀ i < k, asked (n + i) = false) ∧ asked (n + k) = true ∧
        interrupt asked n ts = (ts.take k).map Turn.heard ++ abandon (some true) stop.waiting := by
  induction ts generalizing n with
  | nil => exact .inl ⟨by simp, rfl⟩
  | cons t ts ih =>
    rw [interrupt]
    by_cases hasked : asked n = true
    · rw [if_pos hasked]
      exact .inr ⟨0, t, rfl, by simp, hasked, rfl⟩
    · rw [if_neg hasked]
      rw [Bool.not_eq_true] at hasked
      have hlater : ∀ {k}, (∀ i < k, asked (n + 1 + i) = false) → ∀ i < k + 1,
          asked (n + i) = false := by
        intro k hno i hi
        cases i with
        | zero => exact hasked
        | succ i =>
          rw [Nat.add_comm i 1, ← Nat.add_assoc]
          exact hno i (Nat.lt_of_succ_lt_succ hi)
      rcases ih (n + 1) with ⟨hno, hturns⟩ | ⟨k, stop, hstop, hno, hyes, hturns⟩
      · left
        refine ⟨hlater hno, ?_⟩
        rw [hturns, List.map_cons]
      · right
        refine ⟨k + 1, stop, hstop, hlater hno, ?_, ?_⟩
        · rw [Nat.add_comm k 1, ← Nat.add_assoc]
          exact hyes
        · rw [hturns, List.take_succ_cons, List.map_cons, List.cons_append]

/-! ### Runs over a module -/

def Plan.unasked (plan : Plan) : Plan := { plan with signal := none }

def Plan.asking (plan : Plan) (asked : Nat → Bool) : Plan := { plan with signal := some asked }

def Outcome.withPolls (o : Outcome σ) (n : Nat) : Outcome σ :=
  { o with progress := o.progress.withPolls n }

theorem turns_asking (b : Backend σ) (plan : Plan) (asked : Nat → Bool) (m : ModuleSpec) (s : σ) :
    turns b (plan.asking asked) m s = interrupt asked 0 (turns b plan.unasked m s) := by
  by_cases hsize : 1 ≤ plan.size
  · rw [turns_eq b m s (show 1 ≤ (plan.asking asked).size from hsize),
      turns_eq b m s (show 1 ≤ plan.unasked.size from hsize)]
    exact Progress.turns_signal b asked 0 (startOf plan.unasked m s) rfl
  · rw [turns_of_lt_one b m s (show ¬ 1 ≤ (plan.asking asked).size from hsize),
      turns_of_lt_one b m s (show ¬ 1 ≤ plan.unasked.size from hsize), interrupt]

theorem answer_of_mem_turns : ∀ t ∈ turns b plan.unasked m s, t.answer = none := by
  by_cases hsize : 1 ≤ plan.size
  · rw [turns_eq b m s (show 1 ≤ plan.unasked.size from hsize)]
    exact (startOf plan.unasked m s).answer_of_mem_turns
  · rw [turns_of_lt_one b m s (show ¬ 1 ≤ plan.unasked.size from hsize)]
    simp

/-- The run that is asked with `asked`, and never told to stop: it is asked once before every item,
and does what the run does that is not asked. -/
structure Uninterrupted (b : Backend σ) (plan : Plan) (asked : Nat → Bool) (m : ModuleSpec)
    (s : σ) : Prop where
  answers : ∀ i < (turns b plan.unasked m s).length, asked i = false
  turns : turns b (plan.asking asked) m s = (turns b plan.unasked m s).map Turn.heard
  trace : trace b (plan.asking asked) m s =
    (Run.turns b plan.unasked m s).flatMap fun t => .polled false :: t.events
  outcome : transform b (plan.asking asked) m s =
    (transform b plan.unasked m s).withPolls (Run.turns b plan.unasked m s).length

/-- The run that is asked with `asked`, and told to stop before what is turn `k` of the run that is
not asked, with the items of `stop` waiting: it is asked once before each of the turns until then,
which are those of the run that is not asked, and once more.  After that it gives a fragment for
every item that waits, and there is nothing else to see of it. -/
structure Interrupted (b : Backend σ) (plan : Plan) (asked : Nat → Bool) (m : ModuleSpec)
    (s : σ) (k : Nat) (stop : Turn) : Prop where
  reached : (turns b plan.unasked m s)[k]? = some stop
  answers : ∀ i < k, asked i = false
  told : asked k = true
  turns : turns b (plan.asking asked) m s =
    ((turns b plan.unasked m s).take k).map Turn.heard ++ abandon (some true) stop.waiting
  trace : trace b (plan.asking asked) m s =
    ((Run.turns b plan.unasked m s).take k).flatMap (fun t => .polled false :: t.events) ++
      .polled true :: stop.waiting.map fun item => .gave ⟨item.chunk, Mapping.api item.chunk⟩
  polls : (transform b (plan.asking asked) m s).progress.polls = k + 1
  effects : effects b (plan.asking asked) m s =
    ((Run.turns b plan.unasked m s).take k).flatMap Turn.effects
  fragments : (transform b (plan.asking asked) m s).progress.fragments =
    ((Run.turns b plan.unasked m s).take k).filterMap Turn.fragment? ++
      stop.waiting.map fun item => ⟨item.chunk, Mapping.api item.chunk⟩
  result : (transform b (plan.asking asked) m s).result =
    .ok (ApiSpec.merge
      ((transform b (plan.asking asked) m s).progress.fragments.map Fragment.answer))

theorem events_map_heard {ts : List Turn} (hts : ∀ t ∈ ts, t.answer = none) :
    (ts.map Turn.heard).flatMap Turn.events = ts.flatMap fun t => .polled false :: t.events := by
  induction ts with
  | nil => rfl
  | cons t ts ih =>
    rw [List.forall_mem_cons] at hts
    rw [List.map_cons, List.flatMap_cons, List.flatMap_cons, ih hts.2, Turn.events,
      Turn.events, hts.1]
    rfl

/-- A run that is never told to stop ends as the run that is not asked. -/
theorem transform_asking_of_go (hno : ∀ i < (turns b plan.unasked m s).length, asked i = false) :
    transform b (plan.asking asked) m s =
      (transform b plan.unasked m s).withPolls (turns b plan.unasked m s).length := by
  by_cases hsize : 1 ≤ plan.size
  · have hfree : 1 ≤ plan.unasked.size := hsize
    rw [turns_eq b m s hfree] at hno ⊢
    have hgo : ∀ i < ((startOf plan.unasked m s).turns b none).length, asked (0 + i) = false := by
      intro i hi
      rw [Nat.zero_add]
      exact hno i hi
    have hfinish := (startOf plan.unasked m s).finish_signal b asked 0 rfl hgo
    rw [Nat.zero_add] at hfinish
    have hstart : (startOf (plan.asking asked) m s).finish b (plan.asking asked).signal = _ :=
      hfinish
    have hsignal : plan.unasked.signal = none := rfl
    rw [transform_eq b m s hfree, transform_eq b m s (show 1 ≤ (plan.asking asked).size from hsize),
      hstart, hsignal]
    rcases (startOf plan.unasked m s).finish b none with ⟨e | u, q⟩
    · rfl
    · rfl
  · have hfree : ¬ 1 ≤ plan.unasked.size := hsize
    rw [turns_of_lt_one b m s hfree, transform_of_lt_one b m s hfree,
      transform_of_lt_one b m s (show ¬ 1 ≤ (plan.asking asked).size from hsize)]
    rfl

theorem events_abandon (items : List WorkItem) : (abandon none items).flatMap Turn.events =
    items.map fun item => .gave ⟨item.chunk, Mapping.api item.chunk⟩ := by
  induction items with
  | nil => rfl
  | cons item rest ih => exact congrArg (_ :: ·) ih

theorem answers_map_heard (ts : List Turn) :
    ((ts.map Turn.heard).filterMap Turn.answer).length = ts.length := by
  induction ts with
  | nil => rfl
  | cons t ts ih => exact congrArg Nat.succ ih

theorem interrupted {k : Nat} {stop : Turn} (hreached : (turns b plan.unasked m s)[k]? = some stop)
    (hno : ∀ i < k, asked i = false) (hyes : asked k = true)
    (hturns : turns b (plan.asking asked) m s =
      ((turns b plan.unasked m s).take k).map Turn.heard ++ abandon (some true) stop.waiting) :
    Interrupted b plan asked m s k stop := by
  have hsize : 1 ≤ plan.size := by
    by_contra hsize
    rw [turns_of_lt_one b m s (show ¬ 1 ≤ plan.unasked.size from hsize)] at hreached
    simp at hreached
  have hk : k ≤ (turns b plan.unasked m s).length :=
    Nat.le_of_lt (List.getElem?_eq_some_iff.mp hreached).1
  obtain ⟨heffects, -, hfragments, hpolls⟩ := recounts_transform b (plan.asking asked) m s
  rw [hturns] at heffects hfragments hpolls
  refine ⟨hreached, hno, hyes, hturns, ?_, ?_, ?_, ?_, ?_⟩
  · have hnone : ∀ t ∈ (turns b plan.unasked m s).take k, t.answer = none :=
      fun t ht => answer_of_mem_turns t (List.mem_of_mem_take ht)
    rw [trace, hturns, List.flatMap_append, events_map_heard hnone, Turn.waiting, abandon,
      List.flatMap_cons, events_abandon]
    rfl
  · rw [hpolls, List.filterMap_append, List.length_append, answers_map_heard,
      List.length_take_of_le hk, Turn.waiting, answers_abandon]
    rfl
  · rw [heffects, List.flatMap_append, effects_abandon, List.append_nil, List.flatMap_map]
    rfl
  · rw [hfragments, List.filterMap_append, fragments_abandon, List.filterMap_map]
    rfl
  · apply result_of_endOf (show 1 ≤ (plan.asking asked).size from hsize)
    have hfailure : (turns b (plan.asking asked) m s).findSome? Turn.failure? = none := by
      rw [hturns, List.findSome?_eq_none_iff]
      intro t ht
      rcases List.mem_append.mp ht with hbefore | hafter
      · obtain ⟨u, hu, rfl⟩ := List.mem_map.mp hbefore
        rw [turns_eq b m s (show 1 ≤ plan.unasked.size from hsize)] at hreached hu
        exact (startOf plan.unasked m s).failure?_of_lt hreached u hu
      · exact failure?_of_mem_abandon _ _ t hafter
    rw [endOf, hfailure]

/-- A run that is asked whether to stop: whatever storage and model do and whatever the answers are,
it is asked once before each item until it is told to stop, and not again.  Up to there it is the
run that is not asked; from there on it asks nothing of storage and model, and every item that
waits, the one at hand first, gives the fragment that the mapping makes of it. -/
theorem cancellation_prompt_and_final (b : Backend σ) (plan : Plan) (asked : Nat → Bool)
    (m : ModuleSpec) (s : σ) :
    Recounts b plan.unasked m s (turns b plan.unasked m s) ∧
      Recounts b (plan.asking asked) m s (turns b (plan.asking asked) m s) ∧
      (Uninterrupted b plan asked m s ∨ ∃ k stop, Interrupted b plan asked m s k stop) := by
  refine ⟨recounts_transform .., recounts_transform .., ?_⟩
  have hturns := turns_asking b plan asked m s
  rcases interrupt_cases asked 0 (turns b plan.unasked m s) with
    ⟨hno, hheard⟩ | ⟨k, stop, hreached, hno, hyes, hstopped⟩
  · left
    simp only [Nat.zero_add] at hno
    have hheard := hturns.trans hheard
    refine ⟨hno, hheard, ?_, transform_asking_of_go hno⟩
    rw [trace, hheard, events_map_heard answer_of_mem_turns]
  · right
    simp only [Nat.zero_add] at hno hyes
    exact ⟨k, stop, interrupted hreached hno hyes (hturns.trans hstopped)⟩

end ServiceMigration.Run
