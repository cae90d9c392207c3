import ServiceMigration.Proofs.Cache.Key
import ServiceMigration.Proofs.Run.Account
import ServiceMigration.Proofs.Run.Provenance
/-!
# Running again

A second run over the storage that a first one left takes the same steps, and finds what the first
one had to ask for (`Backend.Remembers.finish_recalls`).  So it returns the same, asks the model
only about what the model failed on, and stores nothing.  Main statement: `rerun_from_cache`.
-/

namespace ServiceMigration.Run

open Completion

variable {σ : Type} {b : Backend σ} {signal : Option (Nat → Bool)} {plan : Plan} {m : ModuleSpec}
  {P : σ → Prop}

section Remembers

variable {held : σ → Held} {back : ModuleSpec → ApiSpec → Except Failure (Option ApiSpec)}
  {outcome : ModuleSpec → Except Failure Generation} {item : WorkItem} {s : σ} {h : Handling}

/-! ### The second run -/

/-- A run has come as far as another one, with everything in the storage that the other one leaves
there in the end. -/
structure Progress.Recalls (P : σ → Prop) (held : σ → Held) (known : Held) (p q : Progress σ) :
    Prop where
  pending : q.pending = p.pending
  fragments : q.fragments = p.fragments
  polls : q.polls = p.polls
  handled : q.handled = p.handled.map again
  goes : q.isCancelled = false
  state : P q.state
  held : held q.state = known

namespace Backend.Remembers

variable {known : Held} {p q : Progress σ}

theorem recalls_poll (hb : b.Remembers P held back outcome) (hpq : p.Recalls P held known q)
    (hgo : (p.poll b signal).isCancelled = false) :
    (p.poll b signal).Recalls P held known (q.poll b signal) := by
  obtain ⟨hstate, hheld⟩ := hb.stores.poll signal hpq.state
  have hpolls : (q.poll b signal).polls = (p.poll b signal).polls ∧
      (q.poll b signal).isCancelled = false := by
    cases signal with
    | none => exact ⟨hpq.polls, hpq.goes⟩
    | some asked =>
      have hstart : p.isCancelled = false := by
        by_contra hcancelled
        rw [Bool.not_eq_false] at hcancelled
        simp [Progress.poll, hcancelled] at hgo
      have hasked : asked p.polls = false := by
        by_contra hasked
        rw [Bool.not_eq_false] at hasked
        simp [Progress.poll, hstart, hasked] at hgo
      simp [Progress.poll, hstart, hasked, hpq.goes, hpq.polls]
  refine ⟨?_, ?_, hpolls.1, ?_, hpolls.2, hstate, hheld.trans hpq.held⟩
  · rw [Progress.poll_pending, Progress.poll_pending, hpq.pending]
  · rw [Progress.poll_fragments, Progress.poll_fragments, hpq.fragments]
  · rw [Progress.poll_handled, Progress.poll_handled, hpq.handled]

/-- The second run handles an item as the first one did, if with an answer from the storage. -/
theorem recalls_step (hb : b.Remembers P held back outcome) (hpq : p.Recalls P held known q) (s : σ)
    (rest : List WorkItem) (hcomes : Comes outcome item (known item.chunk.contentKey) h.recalled) :
    ∃ t, q.step b item rest = (.ok (), t) ∧ (p.note s item rest h).Recalls P held known t := by
  rw [← hpq.held] at hcomes
  obtain ⟨s₂, hattempt⟩ := hb.attempt_of_comes hpq.state hcomes
  have hattempted : Attempted b item q.state (.ok h.recalled, s₂) :=
    hattempt ▸ attempted b item q.state
  obtain ⟨hstate, hheld⟩ := hb.stores.attempted hpq.state hattempted
  refine ⟨q.note s₂ item rest h.recalled, ?_, ?_⟩
  · simp only [Progress.step, hpq.goes, hattempt, Bool.false_eq_true, if_false]
  · have hsame : held s₂ = known := by
      rw [← hpq.held]
      cases h <;> exact (Option.some.inj hheld).symm
    refine ⟨?_, ?_, hpq.polls, ?_, hpq.goes, hstate, hsame⟩
    · cases h <;> rfl
    · simp only [Progress.note, hpq.fragments]
      cases h <;> rfl
    · simp only [Progress.note, hpq.handled, List.map_append, List.map_cons, List.map_nil, again]

end Backend.Remembers

theorem Finished.isCancelled {p : Progress σ} {r : Except Failure Unit × Progress σ}
    (hr : Finished b signal p r) (hp : p.isCancelled = true) : r.2.isCancelled = true := by
  refine hr.invariant (I := fun p => p.isCancelled = true) hp (fun p hp =>
    ?_) fun p _ _ r _ hp hs => ?_
  · rcases p.poll_cases b signal with hpoll | hpoll | hpoll
    · rwa [hpoll]
    · rwa [hpoll]
    · rw [hpoll]
  · cases hs with
    | cancelled | handled | failed => exact hp

theorem Finished.mem_handled {p : Progress σ} {r : Except Failure Unit × Progress σ}
    {e : WorkItem × Handling} (hr : Finished b signal p r) (he : e ∈ p.handled) :
      e ∈ r.2.handled := by
  refine hr.invariant (I := fun p => e ∈ p.handled) he (fun p he => ?_) fun p _ _ r _ he hs => ?_
  · rwa [Progress.poll_handled]
  · cases hs with
    | cancelled | handled => exact List.mem_append_left _ he
    | failed => exact he

/-- Over a storage that accounts for all items of a run, the run is repeated step by step. -/
theorem Backend.Remembers.finish_recalls (hb : b.Remembers P held back outcome) {known : Held}
    {p q p' : Progress σ} (hr : Finished b signal p (.ok (), q)) (hgo : q.isCancelled = false)
    (hknown : ∀ e ∈ q.handled, e.2 ≠ .cancelled →
      Comes outcome e.1 (known e.1.chunk.contentKey) e.2.recalled)
    (hp : p.Recalls P held known p') :
    ∃ q', p'.finish b signal = (.ok (), q') ∧ q.Recalls P held known q' := by
  generalize hend : ((.ok (), q) : Except Failure Unit × Progress σ) = r at hr
  induction hr generalizing p' with
  | done hpending =>
    obtain ⟨-, rfl⟩ := Prod.mk.inj hend
    exact ⟨p', Progress.finish_nil (hp.pending.trans hpending), hp⟩
  | failed => simp at hend
  | @next p r' item rest _ hpending hstep hrest ih =>
    subst hend
    have hnext : r'.isCancelled = false := by
      by_contra hcancelled
      rw [Bool.not_eq_false] at hcancelled
      rw [hrest.isCancelled hcancelled] at hgo
      exact absurd hgo (by simp)
    cases hstep with
    | cancelled hcancelled => exact absurd hnext (by simp [Progress.note, hcancelled])
    | @handled h s hpoll hattempt =>
      have hhandled : (item, h) ∈ q.handled := by
        apply hrest.mem_handled
        exact List.mem_append_right _ (List.mem_singleton_self _)
      have hcomes := hknown _ hhandled (by rintro rfl; cases hattempt)
      obtain ⟨t, hstep, hrecalls⟩ := hb.recalls_step (hb.recalls_poll hp hpoll) s rest hcomes
      obtain ⟨q', hfinish, hq'⟩ := ih hrecalls rfl
      refine ⟨q', ?_, hq'⟩
      rw [Progress.finish_cons (hp.pending.trans hpending) hstep, hfinish]

theorem transform_of_finish {q : Progress σ} (hsize : 1 ≤ plan.size)
    (hfinish : (startOf plan m s).finish b plan.signal = (.ok (), q)) : transform b plan m s =
      q.conclude b m := by
  rw [transform_eq b m s hsize, hfinish]

/-- What a second run does that finds in its storage what a first one left there. -/
theorem Backend.Remembers.transform_recalls (hb : b.Remembers P held back outcome)
    (hsize : 1 ≤ plan.size) (m : ModuleSpec) {s t : σ} {api : ApiSpec} (hs : P s) (ht : P t)
    (hfirst : (transform b plan m s).result = .ok api)
    (hgo : (transform b plan m s).progress.isCancelled = false)
    (hkeys : ∀ e ∈ (transform b plan m s).progress.handled,
      ∀ e' ∈ (transform b plan m s).progress.handled, ∀ key,
        e.1.chunk.contentKey = some key → e'.1.chunk.contentKey = some key → e.1.chunk = e'.1.chunk)
    (hheld : held t = held (transform b plan m s).progress.state) :
    (transform b plan m t).result = .ok api ∧ (transform b plan m t).progress.isCancelled = false ∧
      (transform b plan m t).progress.handled =
        (transform b plan m s).progress.handled.map again := by
  have hstart : (startOf plan m s).Accounted P held outcome (held s) :=
    ⟨hs, by simp [startOf], fun _ => .inl rfl⟩
  rcases transform_cases b m s hsize with ⟨q, hq, ho⟩ | ⟨e, q, -, ho⟩
  · have haccounted : q.Accounted P held outcome (held s) :=
      hq.invariant_of_ok hstart (fun _ => Progress.Accounted.poll hb)
        fun _ _ _ _ _ hp hs => Progress.Accounted.step hb hp hs
    have hend : held (q.conclude b m).progress.state = held q.state :=
      (hb.stores.recordAll _ haccounted.state).2
    rw [ho] at hfirst hgo hkeys hheld ⊢
    rw [hend] at hheld
    have hrecalls : (startOf plan m s).Recalls P held (held q.state) (startOf plan m t) :=
      ⟨rfl, rfl, rfl, rfl, rfl, ht, hheld⟩
    obtain ⟨q', hfinish, hq'⟩ :=
      hb.finish_recalls hq hgo (fun e he hne => haccounted.comes hb hkeys he hne) hrecalls
    rw [transform_of_finish hsize hfinish]
    refine ⟨?_, hq'.goes, hq'.handled⟩
    rw [← hfirst, Progress.conclude, Progress.conclude, hq'.fragments]
  · rw [ho] at hfirst
    simp at hfirst

end Remembers

/-! ### Counters of the second run -/

theorem countP_isCached_again (handled : List (WorkItem × Handling)) :
    (handled.map again).countP (·.2.isCached) =
      handled.countP (·.2.isCached) + (handled.filterMap answered?).length := by
  induction handled with
  | nil => rfl
  | cons e rest ih =>
    obtain ⟨item, h⟩ := e
    rw [List.map_cons, List.countP_cons, List.countP_cons, List.filterMap_cons, ih]
    cases h <;> simp [again, Handling.recalled, Handling.isCached, answered?] <;> omega

theorem countP_isCall_again (handled : List (WorkItem × Handling)) :
    (handled.map again).countP (·.2.isCall) =
      handled.countP (·.2.isSplit) + handled.countP (·.2.isMapped) := by
  induction handled with
  | nil => rfl
  | cons e rest ih =>
    obtain ⟨item, h⟩ := e
    rw [List.map_cons, List.countP_cons, List.countP_cons, List.countP_cons, ih]
    cases h <;> simp [again, Handling.recalled, Handling.isCall, Handling.isAnswered,
      Handling.isSplit, Handling.isMapped] <;> omega

theorem filterMap_answered?_again (handled : List (WorkItem × Handling)) :
    (handled.map again).filterMap answered? = [] := by
  rw [List.filterMap_eq_nil_iff]
  intro e he
  obtain ⟨⟨item, h⟩, -, rfl⟩ := List.mem_map.mp he
  cases h <;> rfl

/-- Without failures there is nothing to ask again. -/
theorem countP_isCall_again_eq_zero {handled : List (WorkItem × Handling)}
    (h : (tally handled).failures = []) : (handled.map again).countP (·.2.isCall) = 0 := by
  have hnone : ∀ e ∈ handled, e.2.failure? = none := by simpa [tally] using h
  rw [List.countP_eq_zero]
  intro e he
  obtain ⟨⟨item, handling⟩, hmem, rfl⟩ := List.mem_map.mp he
  have hfailure := hnone _ hmem
  cases handling with
  | split | mapped => exact absurd hfailure (by simp [Handling.failure?])
  | cached | answered | cancelled =>
    simp [again, Handling.recalled, Handling.isCall, Handling.isAnswered, Handling.isSplit,
      Handling.isMapped]

/-- A second run against a first one: it returns the same, finds all that the first one found or was
answered, asks the model about what the first one failed on and about nothing else, and stores
nothing. -/
structure Repeats (b : Backend σ) (plan : Plan) (m : ModuleSpec) (s t : σ) : Prop where
  result : (transform b plan m t).result = (transform b plan m s).result
  hits : (transform b plan m t).progress.stats.cacheHits =
    (transform b plan m s).progress.stats.cacheHits +
      ((effects b plan m s).filterMap Effect.success?).length
  calls : (transform b plan m t).progress.stats.calls =
    (transform b plan m s).progress.stats.splits + (transform b plan m s).progress.stats.fallbacks
  asked : (effects b plan m t).countP Effect.isCall = (transform b plan m t).progress.stats.calls
  stored : (effects b plan m t).filterMap Effect.stored? = []
  quiet : (transform b plan m s).progress.stats.failures = [] →
    (effects b plan m t).countP Effect.isCall = 0

theorem repeats_of_handled {s t : σ} {api : ApiSpec} (hsize : 1 ≤ plan.size)
    (hfirst : (transform b plan m s).result = .ok api)
    (hsecond : (transform b plan m t).result = .ok api)
    (hhandled : (transform b plan m t).progress.handled =
      (transform b plan m s).progress.handled.map again) :
    Repeats b plan m s t := by
  obtain ⟨_, hstats⟩ := stats_transform b hsize m s
  obtain ⟨_, hstats'⟩ := stats_transform b hsize m t
  have hsuccess := answers_effects hsize hfirst
  have hstored :=
    (stores_effects (b := b) (m := m) (s := t) hsize).trans (answers_effects hsize hsecond)
  have hcalls := calls_effects hsize hsecond
  rw [hhandled] at hstats' hstored hcalls
  refine ⟨hsecond.trans hfirst.symm, ?_, ?_, ?_, ?_, fun hfailures => ?_⟩
  · rw [hstats', hstats, hsuccess]
    exact countP_isCached_again _
  · rw [hstats', hstats]
    exact countP_isCall_again _
  · rw [hstats', hcalls]
    rfl
  · rw [hstored, filterMap_answered?_again]
  · rw [hstats] at hfailures
    rw [hcalls]
    exact countP_isCall_again_eq_zero hfailures

/-! ### A cache in a directory -/

variable {κ : Type} {c : Cache} {ask : Asking κ} {place : List String}

/-- What is found under a key in a directory. -/
def heldAt (place : List String) (s : Session κ) : Held
  | some key =>
    Cache.outcomeAt (Cache.entryName key) (s.workspace.tree.get? (place ++ [Cache.entryName key]))
  | none => .error (.badValue .tooLongToWrite)

/-- What the text of an answer comes to when it is read back; the name of its file makes no
difference. -/
def readBack (answer : ApiSpec) : Except Failure (Option ApiSpec) :=
  match answer.prettyText with
  | some text => (Cache.readEntry "" (.ok text)).1
  | none => .error (.badValue .tooLongToWrite)

theorem readBack_of_prettyText {answer : ApiSpec} {text : String} (name : String)
    (htext : answer.prettyText = some text) :
    readBack answer = (Cache.readEntry name (.ok text)).1 := by
  simp only [readBack, htext, Cache.readEntry]
  split <;> rfl

theorem heldAt_congr {s t : Session κ} (h : t.workspace.tree.get? = s.workspace.tree.get?) :
    heldAt place t = heldAt place s := by
  funext key
  cases key with
  | none => rfl
  | some key => rw [heldAt, heldAt, h]

theorem heldAt_putAnswer {s t : Session κ} {chunk : ModuleSpec} {answer : ApiSpec}
    (h : putAnswer place chunk answer s.workspace.tree.get? = some t.workspace.tree.get?) :
    heldAt place t = Function.update (heldAt place s) chunk.contentKey (readBack answer) := by
  obtain ⟨key, text, hkey, htext, hget⟩ := putAnswer_eq_some_iff.mp h
  rw [hkey, readBack_of_prettyText (Cache.entryName key) htext]
  funext other
  by_cases hother : other = some key
  · subst hother
    rw [Function.update_self, heldAt, ← hget, Function.update_self]
    exact Cache.outcomeAt_encodeText _ htext
  · rw [Function.update_of_ne hother]
    cases other with
    | none => rfl
    | some other =>
      have hplace : place ++ [Cache.entryName other] ≠ place ++ [Cache.entryName key] := by
        intro he
        have hname : other ++ ".json" = key ++ ".json" :=
          List.singleton_inj.mp (List.append_cancel_left he)
        exact hother (congrArg some ((String.append_left_inj _).mp hname))
      rw [heldAt, ← hget, Function.update_of_ne hplace, heldAt]

theorem lookup_fst_eq_heldAt {s : Session κ} (hs : c.WorksIn place s.workspace)
    (chunk : ModuleSpec) :
    (c.lookup chunk s.workspace).1 = heldAt place s chunk.contentKey := by
  cases hkey : chunk.contentKey with
  | none =>
    rw [Cache.lookup_of_lacksKey ⟨hs.isUsed, hkey⟩]
    rfl
  | some key => exact hs.lookup_fst hkey

theorem remembers_backendOf (c : Cache) (place : List String)
    {outcome : ModuleSpec → Except Failure Generation} (hleaves : ask.LeavesFiles)
    (houtcome : ∀ chunk s, (ask chunk s).1 = outcome chunk)
    (hreads : ∀ chunk answer, outcome chunk = .ok (.success answer) →
      ∃ text, answer.prettyText = some text ∧ ApiSpec.parse text = .ok answer) :
    (backendOf c ask).Remembers (fun s => c.WorksIn place s.workspace) (heldAt place)
      (fun _ => readBack) outcome where
  stores := by
    have hfiles := stores_backendOf c place hleaves
    refine ⟨fun chunk s hs => ?_, fun chunk s hs => ?_, fun chunk answer s t hs hstore => ?_,
      fun r s hs => ?_⟩
    · obtain ⟨hworks, hget⟩ := hfiles.lookup chunk s hs
      exact ⟨hworks, heldAt_congr hget⟩
    · obtain ⟨hworks, hget⟩ := hfiles.generate chunk s hs
      exact ⟨hworks, heldAt_congr hget⟩
    · obtain ⟨hworks, hput⟩ := hfiles.store chunk answer s t hs hstore
      exact ⟨hworks, congrArg some (heldAt_putAnswer hput).symm⟩
    · exact ⟨(hfiles.record r s hs).1, heldAt_congr rfl⟩
  lookup chunk s hs := lookup_fst_eq_heldAt hs chunk
  generate chunk s _ := houtcome chunk s
  accepts chunk answer s hs hnone hanswer := by
    obtain ⟨text, htext, -⟩ := hreads chunk answer hanswer
    cases hkey : chunk.contentKey with
    | none =>
      rw [hkey] at hnone
      cases hnone
    | some key =>
      obtain ⟨_, hstores, -⟩ := hs.store_spec hkey htext
      exact congrArg Prod.fst hstores
  back chunk answer hanswer := by
    obtain ⟨text, htext, hparse⟩ := hreads chunk answer hanswer
    rw [readBack_of_prettyText "" htext]
    exact Cache.readEntry_of_parse hparse
  keyless s answer := by simp [heldAt]

/-- No two chunks of the items go by one key unless they have the same content. -/
def KeysTellApart (items : List WorkItem) : Prop :=
  ∀ item ∈ items, ∀ item' ∈ items, ∀ key,
    item.chunk.contentKey = some key → item'.chunk.contentKey = some key →
      item.chunk.SameContent item'.chunk

theorem chunk_eq_of_keysTellApart {σ : Type} (b : Backend σ) (hsize : 1 ≤ plan.size)
    (m : ModuleSpec) (s : σ)
    (hkeys : KeysTellApart ((transform b plan m s).progress.handled.map Prod.fst)) :
    ∀ e ∈ (transform b plan m s).progress.handled, ∀ e' ∈ (transform b plan m s).progress.handled,
      ∀ key, e.1.chunk.contentKey = some key → e'.1.chunk.contentKey = some key →
        e.1.chunk = e'.1.chunk := by
  have htraced := traced_transform b hsize m s
  have hitem : ∀ {e}, e ∈ (transform b plan m s).progress.handled →
      IsChunkOf plan.size m e.1.chunk := by
    intro e he
    exact htraced.items e.1 (List.mem_append_left _ (List.mem_map_of_mem he))
  intro e he e' he' key hkey hkey'
  have hsame := hkeys e.1 (List.mem_map_of_mem he) e'.1 (List.mem_map_of_mem he') key hkey hkey'
  exact (hitem he).ext (hitem he') hsame.endpoints

/-- A run that succeeds and is not cancelled, followed by another one over the same module with the
same cache: the second one comes to the same, with answers from the cache for all that the first one
got from the model, and leaves all files as they are.  The cache may have held anything before the
first run.  The model comes to an outcome by the chunk alone, and its answers are read back from
their texts. -/
theorem rerun_from_cache (c : Cache) (ask : Asking κ) {plan : Plan} (m : ModuleSpec)
    {s t : Session κ}
    {outcome : ModuleSpec → Except Failure Generation} {api : ApiSpec} (hsize : 1 ≤ plan.size)
    (hworks : c.WorksIn place s.workspace) (hleaves : ask.LeavesFiles)
    (houtcome : ∀ chunk s, (ask chunk s).1 = outcome chunk)
    (hreads : ∀ chunk answer, outcome chunk = .ok (.success answer) →
      ∃ text, answer.prettyText = some text ∧ ApiSpec.parse text = .ok answer)
    (hkeys : KeysTellApart ((transform (backendOf c ask) plan m s).progress.handled.map Prod.fst))
    (hfirst : (transform (backendOf c ask) plan m s).result = .ok api)
    (hgo : (transform (backendOf c ask) plan m s).progress.isCancelled = false)
    (hfiles : t.workspace.SameFiles
      (transform (backendOf c ask) plan m s).progress.state.workspace) :
    Repeats (backendOf c ask) plan m s t ∧
      (transform (backendOf c ask) plan m t).progress.state.workspace.tree.get? =
        t.workspace.tree.get? := by
  have hb := remembers_backendOf c place hleaves houtcome hreads
  have hstored := (stores_backendOf c place hleaves).replayed_of_ok hsize hworks hfirst
  have ht : c.WorksIn place t.workspace := hstored.state.of_sameFiles hfiles
  have hheld : heldAt place t =
      heldAt place (transform (backendOf c ask) plan m s).progress.state :=
    heldAt_congr (congrArg FileTree.get? hfiles.tree)
  obtain ⟨hsecond, -, hhandled⟩ := hb.transform_recalls hsize m hworks ht hfirst hgo
    (chunk_eq_of_keysTellApart _ hsize m s hkeys) hheld
  refine ⟨repeats_of_handled hsize hfirst hsecond hhandled, ?_⟩
  have hview := ((stores_backendOf c place hleaves).replayed_of_ok hsize ht hsecond).view
  rw [hhandled, filterMap_answered?_again] at hview
  exact (Option.some.inj hview).symm

/-! ### A module with one endpoint twice -/

end ServiceMigration.Run
