import ServiceMigration.Proofs.Run.Step
/-!
# What a run asks of its backend

A run is watched by a backend that writes down what it is asked (`Backend.traced`); apart from the
list of effects that it adds to, such a run is the run itself (`transform_traced`).  The effects of
a run are those of the items that it handled, one after the other (`Shows`, `Showing`), and the
counters of a run are counts over the same items (`stats_transform`).
-/

namespace ServiceMigration.Run

open Completion

variable {σ τ : Type} {b : Backend σ} {signal : Option (Nat → Bool)} {m : ModuleSpec}
  {item : WorkItem}

/-! ### One backend seen through another -/

/-- The states of one backend are seen as states of another, and every operation respects that. -/
structure Backend.Hom (b : Backend σ) (b' : Backend τ) (f : σ → τ) : Prop where
  lookup : ∀ c s, b'.lookup c (f s) = ((b.lookup c s).1, f (b.lookup c s).2)
  generate : ∀ c s, b'.generate c (f s) = ((b.generate c s).1, f (b.generate c s).2)
  store : ∀ c answer s,
    b'.store c answer (f s) = ((b.store c answer s).1, f (b.store c answer s).2)
  record : ∀ r s, b'.record r (f s) = f (b.record r s)

/-- The same progress, seen in another state. -/
def Progress.view (f : σ → τ) (p : Progress σ) : Progress τ where
  state := f p.state
  pending := p.pending
  fragments := p.fragments
  handled := p.handled
  stats := p.stats
  polls := p.polls
  isCancelled := p.isCancelled

def Outcome.view (f : σ → τ) (o : Outcome σ) : Outcome τ where
  result := o.result
  progress := o.progress.view f

namespace Backend.Hom

variable {b' : Backend τ} {f : σ → τ}

theorem attempt (h : b.Hom b' f) (item : WorkItem) (s : σ) :
    attempt b' item (f s) = ((attempt b item s).1, f (attempt b item s).2) := by
  unfold Run.attempt
  rw [h.lookup]
  rcases b.lookup item.chunk s with ⟨e | (_ | answer), s₁⟩
  · rfl
  · simp only [h.generate]
    rcases b.generate item.chunk s₁ with ⟨e | (answer | ⟨kind, explanation⟩), s₂⟩
    · rfl
    · simp only [h.store]
      rcases b.store item.chunk answer s₂ with ⟨e | u, s₃⟩ <;> rfl
    · simp only [h.record]
      split <;> rfl
  · rfl

theorem poll (h : b.Hom b' f) (p : Progress σ) :
    (p.view f).poll b' signal = (p.poll b signal).view f := by
  cases signal with
  | none => rfl
  | some asked =>
    by_cases hcancelled : p.isCancelled = true
    · simp [Progress.poll, Progress.view, hcancelled]
    · by_cases hasked : asked p.polls = true
      · simp [Progress.poll, Progress.view, hcancelled, hasked, h.record]
      · simp [Progress.poll, Progress.view, hcancelled, hasked]

theorem step (h : b.Hom b' f) (p : Progress σ) (item : WorkItem) (rest : List WorkItem) :
    (p.view f).step b' item rest = ((p.step b item rest).1, (p.step b item rest).2.view f) := by
  unfold Progress.step
  simp only [Progress.view, h.attempt]
  split
  · rfl
  · rcases Run.attempt b item p.state with ⟨e | handling, s⟩ <;> rfl

theorem finish (h : b.Hom b' f) (p : Progress σ) :
    (p.view f).finish b' signal = ((p.finish b signal).1, (p.finish b signal).2.view f) := by
  fun_induction Progress.finish b signal p with
  | case1 p hpending =>
    exact Progress.finish_nil hpending
  | case2 p item rest hpending e q heq =>
    have hview : (p.view f).pending = item :: rest := hpending
    refine Progress.finish_cons_error hview ?_
    rw [h.poll, h.step, heq]
  | case3 p item rest hpending q heq ih =>
    rw [← ih]
    have hview : (p.view f).pending = item :: rest := hpending
    refine Progress.finish_cons hview ?_
    rw [h.poll, h.step, heq]

theorem recordAll (h : b.Hom b' f) (rs : List Record) (s : σ) :
    b'.recordAll rs (f s) = f (b.recordAll rs s) := by
  induction rs generalizing s with
  | nil => rfl
  | cons r rs ih => exact (congrArg (b'.recordAll rs) (h.record r s)).trans (ih (b.record r s))

/-- A run over the one backend is the run over the other, seen there. -/
theorem transform (h : b.Hom b' f) (plan : Plan) (m : ModuleSpec) (s : σ) :
    transform b' plan m (f s) = (transform b plan m s).view f := by
  unfold Run.transform
  split
  · rfl
  · next chunks _ =>
    let start : Progress σ := { state := s, pending := chunks.map fun c => ⟨c, plan.budget⟩ }
    have hfinish : (start.view f).finish b' plan.signal = _ := h.finish start
    simp only [Progress.view, start] at hfinish
    simp only [hfinish]
    rcases Progress.finish b plan.signal start with ⟨e | u, q⟩
    · rfl
    · simp only [Progress.conclude, Outcome.view, Progress.view, h.recordAll]
      rfl

end Backend.Hom

/-! ### Effects -/

/-- What a run asks of storage and model.  An answer counts as stored when the storage is asked to
keep it, whether or not it does. -/
inductive Effect where
  | lookedUp (chunk : ModuleSpec)
  | asked (chunk : ModuleSpec) (outcome : Except Failure Generation)
  | stored (chunk : ModuleSpec) (answer : ApiSpec)

namespace Effect

/-- The chunk and the answer of a call that succeeded. -/
def success? : Effect → Option (ModuleSpec × ApiSpec)
  | .asked chunk (.ok (.success answer)) => some (chunk, answer)
  | _ => none

def stored? : Effect → Option (ModuleSpec × ApiSpec)
  | .stored chunk answer => some (chunk, answer)
  | _ => none

def isCall : Effect → Bool
  | .asked _ _ => true
  | _ => false

end Effect

/-- The backend that also writes down what it is asked. -/
def Backend.traced (b : Backend σ) : Backend (σ × List Effect) where
  lookup c s := ((b.lookup c s.1).1, (b.lookup c s.1).2, s.2 ++ [.lookedUp c])
  generate c s :=
    ((b.generate c s.1).1, (b.generate c s.1).2, s.2 ++ [.asked c (b.generate c s.1).1])
  store c answer s :=
    ((b.store c answer s.1).1, (b.store c answer s.1).2, s.2 ++ [.stored c answer])
  record r s := (b.record r s.1, s.2)

theorem traced_hom (b : Backend σ) : b.traced.Hom b Prod.fst where
  lookup _ _ := rfl
  generate _ _ := rfl
  store _ _ _ := rfl
  record _ _ := rfl

/-- What a run over a module asks of its backend, in order. -/
def effects (b : Backend σ) (plan : Plan) (m : ModuleSpec) (s : σ) : List Effect :=
  (transform b.traced plan m (s, [])).progress.state.2

/-- The run that is watched is the run. -/
theorem transform_traced (b : Backend σ) (plan : Plan) (m : ModuleSpec) (s : σ)
    (before : List Effect) :
    (transform b.traced plan m (s, before)).view Prod.fst = transform b plan m s :=
  ((traced_hom b).transform plan m (s, before)).symm

/-- What an item asks of the backend until it is handled so, or fails. -/
inductive Shows (item : WorkItem) : Except Failure Handling → List Effect → Prop where
  | lookupFailed (e : Failure) : Shows item (.error e) [.lookedUp item.chunk]
  | cached (answer : ApiSpec) : Shows item (.ok (.cached answer)) [.lookedUp item.chunk]
  | generateFailed (e : Failure) :
      Shows item (.error e) [.lookedUp item.chunk, .asked item.chunk (.error e)]
  | answered (answer : ApiSpec) :
      Shows item (.ok (.answered answer))
        [.lookedUp item.chunk, .asked item.chunk (.ok (.success answer)), .stored item.chunk answer]
  | storeFailed (answer : ApiSpec) (e : Failure) :
      Shows item (.error e)
        [.lookedUp item.chunk, .asked item.chunk (.ok (.success answer)), .stored item.chunk answer]
  | split (explanation : String) :
      Shows item (.ok .split)
        [.lookedUp item.chunk, .asked item.chunk (.ok (.failed .inputSizeExceeded explanation))]
  | mapped (kind : FailureKind) (explanation : String) :
      Shows item (.ok (.mapped kind))
        [.lookedUp item.chunk, .asked item.chunk (.ok (.failed kind explanation))]
  | cancelled : Shows item (.ok .cancelled) []

theorem Attempted.shows {s : σ × List Effect} {r : Except Failure Handling × (σ × List Effect)}
    (h : Attempted b.traced item s r) : ∃ part, Shows item r.1 part ∧ r.2.2 = s.2 ++ part := by
  cases h with
  | lookupFailed hlookup =>
    obtain ⟨-, rfl⟩ := Prod.mk.inj hlookup
    exact ⟨_, .lookupFailed _, rfl⟩
  | cached hlookup =>
    obtain ⟨-, rfl⟩ := Prod.mk.inj hlookup
    exact ⟨_, .cached _, rfl⟩
  | generateFailed hlookup hgenerate =>
    obtain ⟨-, rfl⟩ := Prod.mk.inj hlookup
    obtain ⟨houtcome, rfl⟩ := Prod.mk.inj hgenerate
    exact ⟨_, .generateFailed _, by simp [houtcome]⟩
  | @answered answer _ _ _ hlookup hgenerate hstore =>
    obtain ⟨-, rfl⟩ := Prod.mk.inj hlookup
    obtain ⟨houtcome, rfl⟩ := Prod.mk.inj hgenerate
    obtain ⟨-, rfl⟩ := Prod.mk.inj hstore
    exact ⟨_, .answered answer, by simp [houtcome]⟩
  | @storeFailed answer e _ _ _ hlookup hgenerate hstore =>
    obtain ⟨-, rfl⟩ := Prod.mk.inj hlookup
    obtain ⟨houtcome, rfl⟩ := Prod.mk.inj hgenerate
    obtain ⟨-, rfl⟩ := Prod.mk.inj hstore
    exact ⟨_, .storeFailed answer e, by simp [houtcome]⟩
  | @split explanation _ _ hlookup hgenerate =>
    obtain ⟨-, rfl⟩ := Prod.mk.inj hlookup
    obtain ⟨houtcome, rfl⟩ := Prod.mk.inj hgenerate
    exact ⟨_, .split explanation, by simp [Backend.traced, houtcome]⟩
  | @mapped kind explanation _ _ hlookup hgenerate =>
    obtain ⟨-, rfl⟩ := Prod.mk.inj hlookup
    obtain ⟨houtcome, rfl⟩ := Prod.mk.inj hgenerate
    exact ⟨_, .mapped kind explanation, by simp [Backend.traced, houtcome]⟩

/-- What handled items ask of the backend between them. -/
inductive Showing : List (WorkItem × Handling) → List Effect → Prop where
  | nil : Showing [] []
  | snoc {handled : List (WorkItem × Handling)} {effects : List Effect} {item : WorkItem}
      {handling : Handling} {part : List Effect} (hbefore : Showing handled effects)
      (hpart : Shows item (.ok handling) part) :
      Showing (handled ++ [(item, handling)]) (effects ++ part)

theorem recordAll_traced (b : Backend σ) (rs : List Record) (t : σ × List Effect) :
    (b.traced.recordAll rs t).2 = t.2 := by
  induction rs generalizing t with
  | nil => rfl
  | cons r rs ih => exact ih (b.traced.record r t)

/-- A poll asks nothing of the backend but to write something down. -/
theorem Progress.poll_traced (b : Backend σ) (signal : Option (Nat → Bool))
    (p : Progress (σ × List Effect)) :
    (p.poll b.traced signal).state.2 = p.state.2 := by
  rcases p.poll_cases b.traced signal with h | h | h <;> rw [h]
  rfl

/-- What has been asked so far is what the items handled so far ask for. -/
def Progress.Shown (p : Progress (σ × List Effect)) : Prop := Showing p.handled p.state.2

namespace Progress.Shown

variable {p q : Progress (σ × List Effect)}

theorem poll (hp : p.Shown) : (p.poll b.traced signal).Shown := by
  rw [Shown, Progress.poll_handled, Progress.poll_traced]
  exact hp

theorem step {rest : List WorkItem} (hp : p.Shown)
    (hs : Stepped b.traced p item rest (.ok (), q)) : q.Shown := by
  cases hs with
  | cancelled =>
    have hshown := hp.snoc (.cancelled : Shows item _ _)
    rwa [List.append_nil] at hshown
  | @handled handling t _ hattempt =>
    obtain ⟨part, hshows, hstate⟩ := hattempt.shows
    have hstate : t.2 = p.state.2 ++ part := hstate
    rw [Shown, Progress.note, hstate]
    exact hp.snoc hshows

end Progress.Shown

/-- A run over a traced backend has shown what its items ask for, and at last, if it failed, what
was asked for the item that it failed on. -/
theorem Finished.showing {p : Progress (σ × List Effect)}
    {r : Except Failure Unit × Progress (σ × List Effect)} (h : Finished b.traced signal p r)
    (hp : p.Shown) :
    ∃ before last, Showing r.2.handled before ∧ r.2.state.2 = before ++ last ∧
      ((∃ u, r.1 = .ok u) → last = []) ∧
      (∀ e, r.1 = .error e → ∃ item rest, r.2.pending = item :: rest ∧
        Shows item (.error e) last) := by
  rcases r with ⟨e | _, q⟩
  · obtain ⟨p', item, rest, hshown, hpending, hq, hattempt⟩ :=
      h.exists_attempted hp (fun _ => .poll) fun _ _ _ _ _ hp hs => hp.step hs
    obtain ⟨last, hshows, hstate⟩ := hattempt.shows
    rw [hq]
    refine ⟨_, last, hshown, hstate, by simp, ?_⟩
    intro e' he
    obtain rfl := Except.error.inj he
    exact ⟨item, rest, hpending, hshows⟩
  · have hshown : q.Shown := h.invariant_of_ok hp (fun _ => .poll) fun _ _ _ _ _ hp hs => hp.step hs
    exact ⟨_, [], hshown, by simp, fun _ => rfl, by simp⟩

/-- The effects of a run are those of its handled items, and of the item that it failed on if it
did. -/
theorem showing_effects (b : Backend σ) {plan : Plan} (hsize : 1 ≤ plan.size)
    (m : ModuleSpec) (s : σ) :
    ∃ before last, Showing (transform b plan m s).progress.handled before ∧
      effects b plan m s = before ++ last ∧
      ((∃ api, (transform b plan m s).result = .ok api) → last = []) ∧
      (∀ e, (transform b plan m s).result = .error e →
        ∃ item rest, (transform b plan m s).progress.pending = item :: rest ∧
          Shows item (.error e) last) := by
  rw [effects, ← transform_traced b plan m s []]
  rcases transform_cases b.traced m (s, ([] : List Effect)) hsize with ⟨q, hq, ho⟩ | ⟨e, q, hq, ho⟩
  · obtain ⟨before, last, hshowing, hstate, hlast, -⟩ := hq.showing .nil
    rw [ho]
    refine ⟨before, last, hshowing, ?_, fun _ => hlast ⟨_, rfl⟩, ?_⟩
    · simpa [Progress.conclude, recordAll_traced] using hstate
    · simp [Outcome.view, Progress.conclude]
  · obtain ⟨before, last, hshowing, hstate, -, hfailed⟩ := hq.showing .nil
    rw [ho]
    refine ⟨before, last, hshowing, hstate, ?_, ?_⟩
    · simp [Outcome.view]
    · intro e' he
      obtain rfl := Except.error.inj he
      exact hfailed e rfl

/-! ### Counting -/

namespace Handling

def isCached : Handling → Bool
  | .cached _ => true
  | _ => false

def isAnswered : Handling → Bool
  | .answered _ => true
  | _ => false

def isSplit : Handling → Bool
  | .split => true
  | _ => false

def isMapped : Handling → Bool
  | .mapped _ => true
  | _ => false

def isCancelled : Handling → Bool
  | .cancelled => true
  | _ => false

/-- The model was called. -/
def isCall (h : Handling) : Bool := h.isAnswered || h.isSplit || h.isMapped

/-- How the call failed, if it did. -/
def failure? : Handling → Option FailureKind
  | .split => some .inputSizeExceeded
  | .mapped kind => some kind
  | _ => none

end Handling

/-- The chunk of an item that the model answered, and the answer. -/
def answered? : WorkItem × Handling → Option (ModuleSpec × ApiSpec)
  | (item, .answered answer) => some (item.chunk, answer)
  | _ => none

section Showing

variable {handled : List (WorkItem × Handling)} {shown last : List Effect} {e : Failure}

/-- The calls that succeed are those of the items that are answered. -/
theorem Showing.successes (h : Showing handled shown) :
    shown.filterMap Effect.success? = handled.filterMap answered? := by
  induction h with
  | nil => rfl
  | snoc _ hpart ih =>
    rw [List.filterMap_append, List.filterMap_append, ih]
    cases hpart <;> rfl

/-- What is stored for an item is what the model answered for it. -/
theorem Shows.stores {r : Except Failure Handling} (h : Shows item r shown) :
    shown.filterMap Effect.stored? = shown.filterMap Effect.success? := by
  cases h <;> rfl

theorem Showing.stores (h : Showing handled shown) :
    shown.filterMap Effect.stored? = shown.filterMap Effect.success? := by
  induction h with
  | nil => rfl
  | snoc _ hpart ih => rw [List.filterMap_append, List.filterMap_append, ih, hpart.stores]

theorem Showing.calls (h : Showing handled shown) :
    shown.countP Effect.isCall = handled.countP (·.2.isCall) := by
  induction h with
  | nil => rfl
  | snoc _ hpart ih =>
    rw [List.countP_append, List.countP_append, ih]
    cases hpart <;> rfl

theorem Shows.calls_of_error (h : Shows item (.error e) last) : last.countP Effect.isCall ≤ 1 := by
  cases h <;> simp [List.countP_cons, Effect.isCall]

end Showing

section Transform

variable {plan : Plan} {s : σ}

/-- What a run stores are the answers that it gets from the model. -/
theorem stores_effects (hsize : 1 ≤ plan.size) :
    (effects b plan m s).filterMap Effect.stored? =
      (effects b plan m s).filterMap Effect.success? := by
  obtain ⟨before, last, hshowing, heffects, hok, herror⟩ := showing_effects b hsize m s
  have hlast : last.filterMap Effect.stored? = last.filterMap Effect.success? := by
    cases hresult : (transform b plan m s).result with
    | ok api =>
      rw [hok ⟨api, hresult⟩]
      rfl
    | error e =>
      obtain ⟨_, _, _, hshows⟩ := herror e hresult
      exact hshows.stores
  rw [heffects, List.filterMap_append, List.filterMap_append, hshowing.stores, hlast]

/-- The answers that a run gets from the model are those of its answered items, in order. -/
theorem answers_effects (hsize : 1 ≤ plan.size) {api : ApiSpec}
    (hok : (transform b plan m s).result = .ok api) :
    (effects b plan m s).filterMap Effect.success? =
      (transform b plan m s).progress.handled.filterMap answered? := by
  obtain ⟨before, last, hshowing, heffects, hlast, -⟩ := showing_effects b hsize m s
  rw [heffects, hlast ⟨api, hok⟩, List.append_nil]
  exact hshowing.successes

/-- A run that succeeds makes one call for each handled item that is not cached or cancelled. -/
theorem calls_effects (hsize : 1 ≤ plan.size) {api : ApiSpec}
    (hok : (transform b plan m s).result = .ok api) :
    (effects b plan m s).countP Effect.isCall =
      (transform b plan m s).progress.handled.countP (·.2.isCall) := by
  obtain ⟨before, last, hshowing, heffects, hlast, -⟩ := showing_effects b hsize m s
  rw [heffects, hlast ⟨api, hok⟩, List.append_nil]
  exact hshowing.calls

/-- There is at most one call for each item that was taken up. -/
theorem calls_effects_le (hsize : 1 ≤ plan.size) :
    (effects b plan m s).countP Effect.isCall ≤
      (transform b plan m s).progress.handled.length +
        (transform b plan m s).progress.pending.head?.toList.length := by
  obtain ⟨before, last, hshowing, heffects, hlast, herror⟩ := showing_effects b hsize m s
  have hbefore : before.countP Effect.isCall ≤ (transform b plan m s).progress.handled.length := by
    rw [hshowing.calls]
    exact List.countP_le_length
  rw [heffects, List.countP_append]
  cases hresult : (transform b plan m s).result with
  | ok api =>
    rw [hlast ⟨api, hresult⟩, List.countP_nil]
    omega
  | error e =>
    obtain ⟨item, rest, hpending, hshows⟩ := herror e hresult
    have hone := hshows.calls_of_error
    rw [hpending, List.head?_cons, Option.toList_some, List.length_singleton]
    omega

end Transform

/-- The counters as counts over the items that were handled. -/
def tally (handled : List (WorkItem × Handling)) : Stats where
  cacheHits := handled.countP (·.2.isCached)
  calls := handled.countP (·.2.isCall)
  splits := handled.countP (·.2.isSplit)
  fallbacks := handled.countP (·.2.isMapped)
  cancelled := handled.countP (·.2.isCancelled)
  failures := (handled.filterMap (·.2.failure?)).reverse

theorem tally_snoc (handled : List (WorkItem × Handling)) (item : WorkItem) (h : Handling) :
    tally (handled ++ [(item, h)]) = (tally handled).count h := by
  cases h <;>
    simp [tally, Stats.count, List.countP_append, List.filterMap_append, Handling.isCached,
      Handling.isCall, Handling.isAnswered, Handling.isSplit, Handling.isMapped,
        Handling.isCancelled,
      Handling.failure?]

theorem Finished.stats {p : Progress σ} {r : Except Failure Unit × Progress σ}
    (h : Finished b signal p r) (hp : p.stats = tally p.handled) :
      r.2.stats = tally r.2.handled := by
  refine h.invariant (I := fun p => p.stats = tally p.handled) hp (fun p hp => ?_)
    fun p item rest r _ hp hs => ?_
  · rw [Progress.poll_handled, Progress.poll_stats]
    exact hp
  · cases hs with
    | cancelled => rw [Progress.note, hp, tally_snoc]
    | handled => rw [Progress.note, hp, tally_snoc]
    | failed => exact hp

/-- The counters of a run count its handled items; only the number of fragments is put in at the
end. -/
theorem stats_transform (b : Backend σ) {plan : Plan} (hsize : 1 ≤ plan.size)
    (m : ModuleSpec) (s : σ) :
    ∃ chunks, (transform b plan m s).progress.stats =
      { tally (transform b plan m s).progress.handled with chunks } := by
  rcases transform_cases b m s hsize with ⟨q, hq, ho⟩ | ⟨e, q, hq, ho⟩
  · have hstats : q.stats = tally q.handled := hq.stats rfl
    rw [ho]
    exact ⟨q.fragments.length, by rw [Progress.conclude, Progress.finalStats, hstats]⟩
  · rw [ho]
    exact ⟨0, hq.stats rfl⟩

end ServiceMigration.Run
