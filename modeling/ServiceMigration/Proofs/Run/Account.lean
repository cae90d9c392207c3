import ServiceMigration.Proofs.Run.Storage
/-!
# What the storage tells of a run

When a run is over, what is stored says of every item that was handled what it came to: the answer
of the item, or nothing if the model failed on it.  The steps of the run keep an account of that
(`Progress.Accounted`), and in the end it tells what the items would come to if they were handled
again (`Progress.Accounted.comes`).  For this no two chunks that differ may go by one key, or else
an item that failed could find an answer that another one left in the meantime.
-/

namespace ServiceMigration.Run

open Completion

variable {σ : Type} {b : Backend σ} {signal : Option (Nat → Bool)} {P : σ → Prop}

/-- What is found under each key, and without one. -/
abbrev Held := Option String → Except Failure (Option ApiSpec)

/-- Storage that gives back what was stored last under a key, and a model whose outcome depends on
the chunk alone.  Answers of that model are accepted where nothing was found, and come back as they
were. -/
structure Backend.Remembers (b : Backend σ) (P : σ → Prop) (held : σ → Held)
    (back : ModuleSpec → ApiSpec → Except Failure (Option ApiSpec))
    (outcome : ModuleSpec → Except Failure Generation) : Prop where
  stores : b.Stores P held fun c answer known =>
    some (Function.update known c.contentKey (back c answer))
  lookup : ∀ c s, P s → (b.lookup c s).1 = held s c.contentKey
  generate : ∀ c s, P s → (b.generate c s).1 = outcome c
  accepts : ∀ c answer s, P s → held s c.contentKey = .ok none → outcome c = .ok (.success answer) →
    (b.store c answer s).1 = .ok ()
  back : ∀ c answer, outcome c = .ok (.success answer) → back c answer = .ok (some answer)
  keyless : ∀ s answer, held s none ≠ .ok (some answer)

/-- What an item comes to when this is found under its key. -/
inductive Comes (outcome : ModuleSpec → Except Failure Generation) (item : WorkItem) :
    Except Failure (Option ApiSpec) → Handling → Prop where
  | cached (answer : ApiSpec) : Comes outcome item (.ok (some answer)) (.cached answer)
  | answered {answer : ApiSpec} (houtcome : outcome item.chunk = .ok (.success answer)) :
      Comes outcome item (.ok none) (.answered answer)
  | split {explanation : String}
      (houtcome : outcome item.chunk = .ok (.failed .inputSizeExceeded explanation))
      (hsplit : item.canSplit = true) : Comes outcome item (.ok none) .split
  | mapped {kind : FailureKind} {explanation : String}
      (houtcome : outcome item.chunk = .ok (.failed kind explanation))
      (hkeep : kind = .inputSizeExceeded → item.canSplit = false) :
      Comes outcome item (.ok none) (.mapped kind)

section Remembers

variable {held : σ → Held} {back : ModuleSpec → ApiSpec → Except Failure (Option ApiSpec)}
  {outcome : ModuleSpec → Except Failure Generation} {item : WorkItem} {s s' : σ} {h : Handling}

namespace Backend.Remembers

theorem comes (hb : b.Remembers P held back outcome) (hs : P s)
    (ha : Attempted b item s (.ok h, s')) :
    Comes outcome item (held s item.chunk.contentKey) h := by
  have hfound : ∀ {r s₁}, b.lookup item.chunk s = (r, s₁) →
      held s item.chunk.contentKey = r ∧ P s₁ := by
    intro r s₁ hlookup
    have hfst := hb.lookup item.chunk s hs
    have hstate := hb.stores.lookup item.chunk s hs
    rw [hlookup] at hfst hstate
    exact ⟨hfst.symm, hstate.1⟩
  have hasked : ∀ {r s₁ s₂}, P s₁ → b.generate item.chunk s₁ = (r, s₂) →
      outcome item.chunk = r := by
    intro r s₁ s₂ hs₁ hgenerate
    rw [← hb.generate item.chunk s₁ hs₁, hgenerate]
  cases ha with
  | cached hlookup =>
    rw [(hfound hlookup).1]
    exact .cached _
  | answered hlookup hgenerate =>
    obtain ⟨hnone, hs₁⟩ := hfound hlookup
    rw [hnone]
    exact .answered (hasked hs₁ hgenerate)
  | split hlookup hgenerate hsplit =>
    obtain ⟨hnone, hs₁⟩ := hfound hlookup
    rw [hnone]
    exact .split (hasked hs₁ hgenerate) hsplit
  | mapped hlookup hgenerate hkeep =>
    obtain ⟨hnone, hs₁⟩ := hfound hlookup
    rw [hnone]
    exact .mapped (hasked hs₁ hgenerate) hkeep

/-- What is found under the key of an item and what the model makes of its chunk decide the
attempt. -/
theorem attempt_of_comes (hb : b.Remembers P held back outcome) (hs : P s)
    (hcomes : Comes outcome item (held s item.chunk.contentKey) h) :
    ∃ s', attempt b item s = (.ok h, s') := by
  obtain ⟨s₁, hlookup⟩ : ∃ s₁, b.lookup item.chunk s = (held s item.chunk.contentKey, s₁) :=
    ⟨_, Prod.ext (hb.lookup item.chunk s hs) rfl⟩
  obtain ⟨hs₁, -⟩ := hb.stores.lookup_spec hs hlookup
  obtain ⟨s₂, hgenerate⟩ : ∃ s₂, b.generate item.chunk s₁ = (outcome item.chunk, s₂) :=
    ⟨_, Prod.ext (hb.generate item.chunk s₁ hs₁) rfl⟩
  obtain ⟨hs₂, hheld⟩ := hb.stores.generate_spec hs hlookup hgenerate
  unfold attempt
  rw [hlookup]
  generalize hfound : held s item.chunk.contentKey = found at hcomes
  cases hcomes with
  | cached answer => exact ⟨_, rfl⟩
  | answered houtcome =>
    have hnone : held s₂ item.chunk.contentKey = .ok none := by rw [hheld, hfound]
    obtain ⟨s₃, hstore⟩ : ∃ s₃, b.store item.chunk _ s₂ = (.ok (), s₃) :=
      ⟨_, Prod.ext (hb.accepts _ _ s₂ hs₂ hnone houtcome) rfl⟩
    rw [houtcome] at hgenerate
    simp only [hgenerate, hstore]
    exact ⟨_, rfl⟩
  | split houtcome hsplit =>
    rw [houtcome] at hgenerate
    simp only [hgenerate, hsplit, beq_self_eq_true, Bool.and_self, if_true]
    exact ⟨_, rfl⟩
  | @mapped kind _ houtcome hkeep =>
    rw [houtcome] at hgenerate
    have hnot : (kind == .inputSizeExceeded && item.canSplit) = false := by
      rw [Bool.and_eq_false_iff]
      by_cases hkind : kind = .inputSizeExceeded
      · exact .inr (hkeep hkind)
      · exact .inl (by simpa using hkind)
    simp only [hgenerate, hnot, Bool.false_eq_true, if_false]
    exact ⟨_, rfl⟩

end Backend.Remembers

/-! ### The account -/

/-- What the storage says of a handled item: `start` is what was found before the run, `now` what is
found now. -/
def Accounts (outcome : ModuleSpec → Except Failure Generation) (start now : Held) :
    WorkItem × Handling → Prop
  | (item, .cached answer) => now item.chunk.contentKey = .ok (some answer)
  | (item, .answered answer) =>
    now item.chunk.contentKey = .ok (some answer) ∧ outcome item.chunk = .ok (.success answer)
  | (item, .split) => start item.chunk.contentKey = .ok none ∧ Comes outcome item (.ok none) .split
  | (item, .mapped kind) =>
    start item.chunk.contentKey = .ok none ∧ Comes outcome item (.ok none) (.mapped kind)
  | (_, .cancelled) => True

/-- Nothing that was found gets lost. -/
theorem Accounts.mono {start now now' : Held} {e : WorkItem × Handling}
    (h : Accounts outcome start now e)
    (hnow : ∀ key answer, now key = .ok (some answer) → now' key = .ok (some answer)) :
    Accounts outcome start now' e := by
  obtain ⟨item, handling⟩ := e
  cases handling with
  | cached answer => exact hnow _ _ h
  | answered answer => exact ⟨hnow _ _ h.1, h.2⟩
  | split | mapped => exact h
  | cancelled => trivial

/-- The storage accounts for all handled items, and what is found under a key is what was found
before the run, or the answer to a chunk of that key. -/
structure Progress.Accounted (P : σ → Prop) (held : σ → Held)
    (outcome : ModuleSpec → Except Failure Generation) (start : Held) (p : Progress σ) : Prop where
  state : P p.state
  entries : ∀ e ∈ p.handled, Accounts outcome start (held p.state) e
  keys : ∀ key, held p.state key = start key ∨
    ∃ e ∈ p.handled, ∃ answer, e.2 = .answered answer ∧ e.1.chunk.contentKey = key

namespace Progress.Accounted

variable {start : Held} {p : Progress σ} {rest : List WorkItem}

/-- Where nothing is found, nothing was found before. -/
theorem start_of_none (hp : p.Accounted P held outcome start) {key : Option String}
    (hnone : held p.state key = .ok none) : start key = .ok none := by
  rcases hp.keys key with hsame | ⟨⟨item, handling⟩, he, answer, hanswered, rfl⟩
  · rw [← hsame, hnone]
  · obtain rfl : handling = .answered answer := hanswered
    obtain ⟨hnow, -⟩ := hp.entries _ he
    rw [hnow] at hnone
    exact absurd hnone (by simp)

theorem poll (hb : b.Remembers P held back outcome) (hp : p.Accounted P held outcome start) :
    (p.poll b signal).Accounted P held outcome start := by
  obtain ⟨hstate, hheld⟩ := hb.stores.poll signal hp.state
  refine ⟨hstate, ?_, ?_⟩
  · rw [hheld, Progress.poll_handled]
    exact hp.entries
  · rw [hheld, Progress.poll_handled]
    exact hp.keys

theorem note (hp : p.Accounted P held outcome start) (hs' : P s')
    (hmono : ∀ key answer, held p.state key = .ok (some answer) → held s' key = .ok (some answer))
    (hnew : Accounts outcome start (held s') (item, h))
    (hkeys : ∀ key, held s' key = held p.state key ∨
      ∃ answer, h = .answered answer ∧ item.chunk.contentKey = key) :
    (p.note s' item rest h).Accounted P held outcome start := by
  refine ⟨hs', fun e he => ?_, fun key => ?_⟩
  · rcases List.mem_append.mp he with hold | hlast
    · exact (hp.entries e hold).mono hmono
    · rw [List.mem_singleton.mp hlast]
      exact hnew
  · rcases hkeys key with hsame | ⟨answer, hanswered, hkey⟩
    · rcases hp.keys key with hstart | ⟨e, he, hanswer⟩
      · exact .inl (hsame.trans hstart)
      · exact .inr ⟨e, List.mem_append_left _ he, hanswer⟩
    · exact .inr ⟨(item, h), List.mem_append_right _ (List.mem_singleton_self _), answer,
        hanswered, hkey⟩

theorem handled (hb : b.Remembers P held back outcome) (hp : p.Accounted P held outcome start)
    (ha : Attempted b item p.state (.ok h, s')) :
    (p.note s' item rest h).Accounted P held outcome start := by
  obtain ⟨hs', hview⟩ := hb.stores.attempted hp.state ha
  have hcomes := hb.comes hp.state ha
  generalize hfound : held p.state item.chunk.contentKey = found at hcomes
  cases hcomes with
  | cached answer =>
    have hsame : held s' = held p.state := (Option.some.inj hview).symm
    exact hp.note hs' (by simp [hsame]) (by simpa [Accounts, hsame] using hfound) (by simp [hsame])
  | @answered answer houtcome =>
    have hput : held s' =
        Function.update (held p.state) item.chunk.contentKey (.ok (some answer)) := by
      rw [← hb.back _ _ houtcome]
      exact (Option.some.inj hview).symm
    refine hp.note hs' (fun key other hother => ?_) ⟨?_, houtcome⟩ fun key => ?_
    · have hne : key ≠ item.chunk.contentKey := by
        rintro rfl
        rw [hfound] at hother
        exact absurd hother (by simp)
      rw [hput, Function.update_of_ne hne, hother]
    · rw [hput, Function.update_self]
    · by_cases hkey : key = item.chunk.contentKey
      · exact .inr ⟨answer, rfl, hkey.symm⟩
      · exact .inl (by rw [hput, Function.update_of_ne hkey])
  | split houtcome hsplit =>
    have hsame : held s' = held p.state := (Option.some.inj hview).symm
    exact hp.note hs' (by simp [hsame]) ⟨hp.start_of_none hfound, .split houtcome hsplit⟩
      (by simp [hsame])
  | mapped houtcome hkeep =>
    have hsame : held s' = held p.state := (Option.some.inj hview).symm
    exact hp.note hs' (by simp [hsame]) ⟨hp.start_of_none hfound, .mapped houtcome hkeep⟩
      (by simp [hsame])

theorem step (hb : b.Remembers P held back outcome) {q : Progress σ}
    (hp : p.Accounted P held outcome start) (hs : Stepped b p item rest (.ok (), q)) :
    q.Accounted P held outcome start := by
  cases hs with
  | cancelled => exact hp.note hp.state (by simp) trivial (by simp)
  | handled _ hattempt => exact handled hb hp hattempt

end Progress.Accounted

/-- An item that was answered comes from the storage when it is handled again. -/
def Handling.recalled : Handling → Handling
  | .answered answer => .cached answer
  | h => h

def again (e : WorkItem × Handling) : WorkItem × Handling := (e.1, e.2.recalled)

/-- When a run is over, its items would come to the same again, with answers from the storage. -/
theorem Progress.Accounted.comes (hb : b.Remembers P held back outcome) {start : Held}
    {p : Progress σ} (hp : p.Accounted P held outcome start)
    (hkeys : ∀ e ∈ p.handled, ∀ e' ∈ p.handled, ∀ key,
      e.1.chunk.contentKey = some key → e'.1.chunk.contentKey = some key → e.1.chunk = e'.1.chunk)
    {e : WorkItem × Handling} (he : e ∈ p.handled) (hgo : e.2 ≠ .cancelled) :
    Comes outcome e.1 (held p.state e.1.chunk.contentKey) e.2.recalled := by
  -- the answer to another item of the key would be an answer to the chunk that failed
  have hnone : start e.1.chunk.contentKey = .ok none →
      (∀ answer, outcome e.1.chunk ≠ .ok (.success answer)) →
      held p.state e.1.chunk.contentKey = .ok none := by
    intro hstart hfailed
    rcases hp.keys e.1.chunk.contentKey with hsame | ⟨⟨item, handling⟩, he', answer,
      hanswered, hkey⟩
    · rw [hsame, hstart]
    · obtain rfl : handling = .answered answer := hanswered
      obtain ⟨hnow, houtcome⟩ := hp.entries _ he'
      cases hsome : item.chunk.contentKey with
      | none =>
        rw [hsome] at hnow
        exact absurd hnow (hb.keyless _ _)
      | some key =>
        have hchunk := hkeys _ he' e he key hsome (hkey.symm.trans hsome)
        rw [hchunk] at houtcome
        exact absurd houtcome (hfailed answer)
  have haccount := hp.entries e he
  obtain ⟨item, handling⟩ := e
  cases handling with
  | cached answer =>
    have hnow : held p.state item.chunk.contentKey = .ok (some answer) := haccount
    rw [hnow]
    exact .cached answer
  | answered answer =>
    rw [haccount.1]
    exact .cached answer
  | split =>
    obtain ⟨hstart, hcomes⟩ := haccount
    cases hcomes with
    | split houtcome hsplit =>
      rw [hnone hstart (by simp [houtcome])]
      exact .split houtcome hsplit
  | mapped kind =>
    obtain ⟨hstart, hcomes⟩ := haccount
    cases hcomes with
    | mapped houtcome hkeep =>
      rw [hnone hstart (by simp [houtcome])]
      exact .mapped houtcome hkeep
  | cancelled => exact absurd rfl hgo

end Remembers

end ServiceMigration.Run
