import ServiceMigration.Run.Progress
/-!
# What a run can do

A run is seen here as a relation, with one rule for each thing that can happen: to an attempt on an
item (`Attempted`), to a step (`Stepped`), and to the whole (`Finished`).  Every property of runs is
derived from these rules, by cases on a step and by induction on the way to the end;
`Finished.invariant` packs that induction.
-/

namespace ServiceMigration.Run

open Completion

variable {σ : Type} {b : Backend σ} {signal : Option (Nat → Bool)}

theorem WorkItem.partSize_pos (item : WorkItem) : 0 < item.partSize :=
  Nat.lt_of_lt_of_le Nat.one_pos (Nat.le_max_left 1 _)

/-- An item that can be split has parts, which take its place. -/
theorem WorkItem.next_split {item : WorkItem} (h : item.canSplit = true) :
    1 < item.size ∧ item.next .split = item.parts := by
  simp only [WorkItem.canSplit, Bool.and_eq_true, decide_eq_true_eq] at h
  exact ⟨h.1, if_pos h.1⟩

/-! ### Attempts -/

/-- What can come of an attempt on an item in a state. -/
inductive Attempted (b : Backend σ) (item : WorkItem) (s : σ) :
    Except Failure Handling × σ → Prop where
  | lookupFailed {e : Failure} {s₁ : σ} (hlookup : b.lookup item.chunk s = (.error e, s₁)) :
      Attempted b item s (.error e, s₁)
  | cached {answer : ApiSpec} {s₁ : σ} (hlookup : b.lookup item.chunk s = (.ok (some answer), s₁)) :
      Attempted b item s (.ok (.cached answer), s₁)
  | generateFailed {e : Failure} {s₁ s₂ : σ} (hlookup : b.lookup item.chunk s = (.ok none, s₁))
      (hgenerate : b.generate item.chunk s₁ = (.error e, s₂)) :
      Attempted b item s (.error e, s₂)
  | answered {answer : ApiSpec} {s₁ s₂ s₃ : σ} (hlookup : b.lookup item.chunk s = (.ok none, s₁))
      (hgenerate : b.generate item.chunk s₁ = (.ok (.success answer), s₂))
      (hstore : b.store item.chunk answer s₂ = (.ok (), s₃)) :
      Attempted b item s (.ok (.answered answer), s₃)
  | storeFailed {answer : ApiSpec} {e : Failure} {s₁ s₂ s₃ : σ}
      (hlookup : b.lookup item.chunk s = (.ok none, s₁))
      (hgenerate : b.generate item.chunk s₁ = (.ok (.success answer), s₂))
      (hstore : b.store item.chunk answer s₂ = (.error e, s₃)) :
      Attempted b item s (.error e, s₃)
  | split {explanation : String} {s₁ s₂ : σ} (hlookup : b.lookup item.chunk s = (.ok none, s₁))
      (hgenerate : b.generate item.chunk s₁ = (.ok (.failed .inputSizeExceeded explanation), s₂))
      (hsplit : item.canSplit = true) :
      Attempted b item s (.ok .split, b.record item.splitRecord s₂)
  | mapped {kind : FailureKind} {explanation : String} {s₁ s₂ : σ}
      (hlookup : b.lookup item.chunk s = (.ok none, s₁))
      (hgenerate : b.generate item.chunk s₁ = (.ok (.failed kind explanation), s₂))
      (hkeep : kind = .inputSizeExceeded → item.canSplit = false) :
      Attempted b item s (.ok (.mapped kind), b.record (item.fallbackRecord kind explanation) s₂)

theorem attempted (b : Backend σ) (item : WorkItem) (s : σ) :
    Attempted b item s (attempt b item s) := by
  unfold attempt
  split
  · next hlookup => exact .lookupFailed hlookup
  · next hlookup => exact .cached hlookup
  · next hlookup =>
    split
    · next hgenerate => exact .generateFailed hlookup hgenerate
    · next hgenerate =>
      split
      · next hstore => exact .storeFailed hlookup hgenerate hstore
      · next hstore => exact .answered hlookup hgenerate hstore
    · next kind explanation _ hgenerate =>
      split
      · next h =>
        rw [Bool.and_eq_true, beq_iff_eq] at h
        obtain ⟨rfl, hsplit⟩ := h
        exact .split hlookup hgenerate hsplit
      · next h =>
        refine .mapped hlookup hgenerate fun hkind => ?_
        simpa [hkind] using h

theorem Attempted.canSplit {item : WorkItem} {s s' : σ} {h : Handling}
    (ha : Attempted b item s (.ok h, s')) (hs : h = .split) : item.canSplit = true := by
  cases ha with
  | split _ _ hsplit => exact hsplit
  | cached | answered | mapped => simp at hs

/-! ### Steps -/

namespace Progress

/-- A poll asks nothing, or is told to go on, or is told to stop and writes that down. -/
theorem poll_cases (b : Backend σ) (signal : Option (Nat → Bool)) (p : Progress σ) :
    p.poll b signal = p ∨ p.poll b signal = { p with polls := p.polls + 1 } ∨
      p.poll b signal =
        { p with
          state := b.record cancelRecord p.state, polls := p.polls + 1, isCancelled := true } := by
  unfold poll
  split
  · exact .inl rfl
  · split
    · exact .inl rfl
    · split
      · exact .inr (.inr rfl)
      · exact .inr (.inl rfl)

@[simp] theorem poll_pending (b : Backend σ) (signal : Option (Nat → Bool)) (p : Progress σ) :
    (p.poll b signal).pending = p.pending := by
  rcases p.poll_cases b signal with h | h | h <;> rw [h]

@[simp] theorem poll_fragments (b : Backend σ) (signal : Option (Nat → Bool)) (p : Progress σ) :
    (p.poll b signal).fragments = p.fragments := by
  rcases p.poll_cases b signal with h | h | h <;> rw [h]

@[simp] theorem poll_handled (b : Backend σ) (signal : Option (Nat → Bool)) (p : Progress σ) :
    (p.poll b signal).handled = p.handled := by
  rcases p.poll_cases b signal with h | h | h <;> rw [h]

@[simp] theorem poll_stats (b : Backend σ) (signal : Option (Nat → Bool)) (p : Progress σ) :
    (p.poll b signal).stats = p.stats := by
  rcases p.poll_cases b signal with h | h | h <;> rw [h]

end Progress

/-- What can come of a step with an item, when the items of `rest` wait behind it. -/
inductive Stepped (b : Backend σ) (p : Progress σ) (item : WorkItem) (rest : List WorkItem) :
    Except Failure Unit × Progress σ → Prop where
  | cancelled (hcancelled : p.isCancelled = true) :
      Stepped b p item rest (.ok (), p.note p.state item rest .cancelled)
  | handled {h : Handling} {s : σ} (hgo : p.isCancelled = false)
      (hattempt : Attempted b item p.state (.ok h, s)) :
      Stepped b p item rest (.ok (), p.note s item rest h)
  | failed {e : Failure} {s : σ} (hgo : p.isCancelled = false)
      (hattempt : Attempted b item p.state (.error e, s)) :
      Stepped b p item rest (.error e, { p with state := s })

theorem stepped (b : Backend σ) (p : Progress σ) (item : WorkItem) (rest : List WorkItem) :
    Stepped b p item rest (p.step b item rest) := by
  unfold Progress.step
  split
  · next hcancelled => exact .cancelled hcancelled
  · next hgo =>
    have hgo : p.isCancelled = false := Bool.eq_false_iff.mpr hgo
    have hattempt := attempted b item p.state
    split
    · next heq => exact .failed hgo (heq ▸ hattempt)
    · next heq => exact .handled hgo (heq ▸ hattempt)

/-! ### Runs -/

/-- How a run can end that has got to some place. -/
inductive Finished (b : Backend σ) (signal : Option (Nat → Bool)) :
    Progress σ → Except Failure Unit × Progress σ → Prop where
  | done {p : Progress σ} (hpending : p.pending = []) : Finished b signal p (.ok (), p)
  | failed {p q : Progress σ} {item : WorkItem} {rest : List WorkItem} {e : Failure}
      (hpending : p.pending = item :: rest)
      (hstep : Stepped b (p.poll b signal) item rest (.error e, q)) :
      Finished b signal p (.error e, q)
  | next {p q : Progress σ} {item : WorkItem} {rest : List WorkItem}
      {r : Except Failure Unit × Progress σ} (hpending : p.pending = item :: rest)
      (hstep : Stepped b (p.poll b signal) item rest (.ok (), q)) (hrest : Finished b signal q r) :
      Finished b signal p r

theorem finished (b : Backend σ) (signal : Option (Nat → Bool)) (p : Progress σ) :
    Finished b signal p (p.finish b signal) := by
  fun_induction Progress.finish b signal p with
  | case1 p hpending => exact .done hpending
  | case2 p item rest hpending e q heq =>
    exact .failed hpending (heq ▸ stepped b (p.poll b signal) item rest)
  | case3 p item rest hpending q heq ih =>
    exact .next hpending (heq ▸ stepped b (p.poll b signal) item rest) ih

theorem Progress.finish_cons {p q : Progress σ} {item : WorkItem} {rest : List WorkItem}
    (hpending : p.pending = item :: rest)
    (hstep : (p.poll b signal).step b item rest = (.ok (), q)) :
    p.finish b signal = q.finish b signal := by
  rw [Progress.finish]
  split
  · next hnil => simp [hnil] at hpending
  · next hcons =>
    obtain ⟨rfl, rfl⟩ := List.cons.inj (hcons.symm.trans hpending)
    split
    · next herror => simp [hstep] at herror
    · next hok =>
      obtain ⟨-, rfl⟩ := Prod.mk.inj (hstep.symm.trans hok)
      rfl

theorem Progress.finish_nil {p : Progress σ} (hpending : p.pending = []) :
    p.finish b signal = (.ok (), p) := by
  rw [Progress.finish]
  split
  · rfl
  · next hcons => simp [hpending] at hcons

theorem Progress.finish_cons_error {p q : Progress σ} {item : WorkItem} {rest : List WorkItem}
    {e : Failure} (hpending : p.pending = item :: rest)
    (hstep : (p.poll b signal).step b item rest = (.error e, q)) :
    p.finish b signal = (.error e, q) := by
  rw [Progress.finish]
  split
  · next hnil => simp [hnil] at hpending
  · next hcons =>
    obtain ⟨rfl, rfl⟩ := List.cons.inj (hcons.symm.trans hpending)
    split
    · next herror => exact herror.symm.trans hstep
    · next hok => simp [hstep] at hok

/-- What polls and steps keep, a run keeps. -/
theorem Finished.invariant {I : Progress σ → Prop} {p : Progress σ}
    {r : Except Failure Unit × Progress σ} (h : Finished b signal p r) (hstart : I p)
    (hpoll : ∀ p, I p → I (p.poll b signal))
    (hstep : ∀ p item rest r, p.pending = item :: rest → I p → Stepped b p item rest r → I r.2) :
    I r.2 := by
  induction h with
  | done => exact hstart
  | failed hpending hs => exact hstep _ _ _ _ (by simpa using hpending) (hpoll _ hstart) hs
  | next hpending hs _ ih =>
    exact ih (hstep _ _ _ _ (by simpa using hpending) (hpoll _ hstart) hs)

theorem Finished.pending_eq_nil {p q : Progress σ} (h : Finished b signal p (.ok (), q)) :
    q.pending = [] := by
  generalize hr : ((.ok (), q) : Except Failure Unit × Progress σ) = r at h
  induction h with
  | done hpending =>
    obtain ⟨-, rfl⟩ := Prod.mk.inj hr
    exact hpending
  | failed => simp at hr
  | next _ _ _ ih => exact ih hr

/-- What polls and steps that succeed keep, a run that succeeds keeps. -/
theorem Finished.invariant_of_ok {I : Progress σ → Prop} {p q : Progress σ}
    (h : Finished b signal p (.ok (), q)) (hstart : I p) (hpoll : ∀ p, I p → I (p.poll b signal))
    (hstep : ∀ p item rest q, p.pending = item :: rest → I p →
      Stepped b p item rest (.ok (), q) → I q) : I q := by
  generalize hr : ((.ok (), q) : Except Failure Unit × Progress σ) = r at h
  induction h with
  | done =>
    obtain ⟨-, rfl⟩ := Prod.mk.inj hr
    exact hstart
  | failed => simp at hr
  | next hpending hs _ ih =>
    exact ih (hstep _ _ _ _ (by simpa using hpending) (hpoll _ hstart) hs) hr

/-- A run that fails does so in an attempt on the item that is then first, and up to then keeps what
polls and steps keep. -/
theorem Finished.exists_attempted {I : Progress σ → Prop} {p q : Progress σ} {e : Failure}
    (h : Finished b signal p (.error e, q)) (hstart : I p) (hpoll : ∀ p, I p → I (p.poll b signal))
    (hstep : ∀ p item rest q, p.pending = item :: rest → I p →
      Stepped b p item rest (.ok (), q) → I q) :
    ∃ p' item rest, I p' ∧ p'.pending = item :: rest ∧ q = { p' with state := q.state } ∧
      Attempted b item p'.state (.error e, q.state) := by
  generalize hr : ((.error e, q) : Except Failure Unit × Progress σ) = r at h
  induction h with
  | done => simp at hr
  | @failed p q' item rest e' hpending hs =>
    obtain ⟨he, rfl⟩ := Prod.mk.inj hr
    obtain rfl := Except.error.inj he
    cases hs with
    | failed _ hattempt =>
      exact ⟨p.poll b signal, item, rest, hpoll p hstart, by simpa using hpending, rfl, hattempt⟩
  | next hpending hs _ ih =>
    exact ih (hstep _ _ _ _ (by simpa using hpending) (hpoll _ hstart) hs) hr

/-! ### The run over a module -/

def startOf (plan : Plan) (m : ModuleSpec) (s : σ) : Progress σ where
  state := s
  pending := (m.chunks plan.size.toNat).map fun c => ⟨c, plan.budget⟩

theorem transform_eq (b : Backend σ) {plan : Plan} (m : ModuleSpec) (s : σ)
    (hsize : 1 ≤ plan.size) :
    transform b plan m s =
      match (startOf plan m s).finish b plan.signal with
      | (.error e, p) => { result := .error e, progress := p }
      | (.ok (), p) => p.conclude b m := by
  rw [transform, ModuleSpec.chunksOf_of_one_le hsize]
  rfl

/-- A size that is none ends the run before anything is done. -/
theorem transform_of_lt_one (b : Backend σ) {plan : Plan} (m : ModuleSpec) (s : σ)
    (hsize : ¬ 1 ≤ plan.size) :
    transform b plan m s =
      { result := .error (.badValue (.chunkSize ⟨plan.size⟩)),
        progress := { state := s, pending := [] } } := by
  rw [transform, ModuleSpec.chunksOf_of_lt_one hsize]

/-- What can come of a run over a module whose plan has a size for chunks. -/
theorem transform_cases (b : Backend σ) {plan : Plan} (m : ModuleSpec) (s : σ)
    (hsize : 1 ≤ plan.size) :
    (∃ q, Finished b plan.signal (startOf plan m s) (.ok (), q) ∧
      transform b plan m s = q.conclude b m) ∨
    ∃ e q, Finished b plan.signal (startOf plan m s) (.error e, q) ∧
      transform b plan m s = { result := .error e, progress := q } := by
  have hfinished := finished b plan.signal (startOf plan m s)
  rw [transform_eq b m s hsize]
  split
  · next e q heq => exact .inr ⟨e, q, heq ▸ hfinished, rfl⟩
  · next q heq => exact .inl ⟨q, heq ▸ hfinished, rfl⟩

/-- A run has handled what its steps have handled, whatever is written down when it is over. -/
theorem transform_finished (b : Backend σ) {plan : Plan} (m : ModuleSpec) (s : σ)
    (hsize : 1 ≤ plan.size) :
    ∃ r, Finished b plan.signal (startOf plan m s) r ∧
      (transform b plan m s).progress.pending = r.2.pending ∧
      (transform b plan m s).progress.fragments = r.2.fragments ∧
      (transform b plan m s).progress.handled = r.2.handled ∧
      (transform b plan m s).progress.isCancelled = r.2.isCancelled := by
  rcases transform_cases b m s hsize with ⟨q, hq, ho⟩ | ⟨e, q, hq, ho⟩
  · rw [ho]
    exact ⟨_, hq, rfl, rfl, rfl, rfl⟩
  · rw [ho]
    exact ⟨_, hq, rfl, rfl, rfl, rfl⟩

/-! ### States of a kind -/

/-- Whatever the backend is asked, and whether or not it fails, states of a kind stay of that
kind. -/
structure Backend.Keeps (b : Backend σ) (P : σ → Prop) : Prop where
  lookup : ∀ c s, P s → P (b.lookup c s).2
  generate : ∀ c s, P s → P (b.generate c s).2
  store : ∀ c answer s, P s → P (b.store c answer s).2
  record : ∀ r s, P s → P (b.record r s)

namespace Backend.Keeps

variable {P : σ → Prop}

theorem attempted (hb : b.Keeps P) {item : WorkItem} {s : σ}
    {r : Except Failure Handling × σ} (hs : P s) (ha : Attempted b item s r) : P r.2 := by
  have hlookup : ∀ {c s r s'}, P s → b.lookup c s = (r, s') → P s' := by
    intro c s r s' hs h
    have hkept := hb.lookup c s hs
    rwa [h] at hkept
  have hgenerate : ∀ {c s r s'}, P s → b.generate c s = (r, s') → P s' := by
    intro c s r s' hs h
    have hkept := hb.generate c s hs
    rwa [h] at hkept
  have hstore : ∀ {c answer s r s'}, P s → b.store c answer s = (r, s') → P s' := by
    intro c answer s r s' hs h
    have hkept := hb.store c answer s hs
    rwa [h] at hkept
  cases ha with
  | lookupFailed h | cached h => exact hlookup hs h
  | generateFailed h h' => exact hgenerate (hlookup hs h) h'
  | answered h h' h'' | storeFailed h h' h'' => exact hstore (hgenerate (hlookup hs h) h') h''
  | split h h' | mapped h h' => exact hb.record _ _ (hgenerate (hlookup hs h) h')

theorem poll (hb : b.Keeps P) {p : Progress σ} (hp : P p.state) : P (p.poll b signal).state := by
  rcases p.poll_cases b signal with hpoll | hpoll | hpoll
  · rwa [hpoll]
  · rwa [hpoll]
  · rw [hpoll]
    exact hb.record _ _ hp

theorem recordAll (hb : b.Keeps P) (rs : List Record) {s : σ} (hs : P s) :
    P (b.recordAll rs s) := by
  induction rs generalizing s with
  | nil => exact hs
  | cons r rs ih => exact ih (hb.record r s hs)

/-- A run stays in states of the kind, also when it fails. -/
theorem transform (hb : b.Keeps P) (plan : Plan) (m : ModuleSpec) {s : σ} (hs : P s) :
    P (Run.transform b plan m s).progress.state := by
  have hfinished : ∀ {p r}, Finished b plan.signal p r → P p.state → P r.2.state := by
    intro p r hr hp
    refine hr.invariant (I := fun p => P p.state) hp (fun _ => hb.poll) fun p _ _ _ _ hp hstep => ?_
    cases hstep with
    | cancelled => exact hp
    | handled _ hattempt | failed _ hattempt => exact hb.attempted hp hattempt
  by_cases hsize : 1 ≤ plan.size
  · rcases transform_cases b m s hsize with ⟨q, hq, ho⟩ | ⟨e, q, hq, ho⟩
    · rw [ho]
      exact hb.recordAll _ (hfinished hq hs)
    · rw [ho]
      exact hfinished hq hs
  · rw [transform_of_lt_one b m s hsize]
    exact hs

end Backend.Keeps

end ServiceMigration.Run
