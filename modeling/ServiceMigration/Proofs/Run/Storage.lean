import ServiceMigration.Proofs.Cache.Working
import ServiceMigration.Proofs.Run.Effects
import ServiceMigration.Proofs.Run.Fallback
/-!
# What a run leaves in its storage

Of all that a run does only its stores change what is stored, and it stores the answers of the model
and nothing else.  So what is stored after a run is what was stored before with the answers of the
run put in, one after the other: the history of the run, replayed.  Only an answer that is not kept
breaks a run off, and then it is the last one (`Backend.Stores.leaves`).  For a cache in a directory
this says which files are changed and what they hold (`only_answers_are_kept`).
-/

namespace ServiceMigration.Run

open Completion

variable {σ α : Type} {b : Backend σ} {signal : Option (Nat → Bool)} {plan : Plan} {m : ModuleSpec}
  {P : σ → Prop} {view : σ → α} {put : ModuleSpec → ApiSpec → α → Option α}

/-- Put answers into what is stored, one after the other, if each of them can be put in. -/
def replay (put : ModuleSpec → ApiSpec → α → Option α) (answers : List (ModuleSpec × ApiSpec))
    (stored : α) : Option α :=
  answers.foldlM (fun stored e => put e.1 e.2 stored) stored

theorem replay_append (put : ModuleSpec → ApiSpec → α → Option α)
    (xs ys : List (ModuleSpec × ApiSpec))
    (stored : α) : replay put (xs ++ ys) stored = (replay put xs stored).bind (replay put ys) :=
  List.foldlM_append

theorem replay_cons {e : ModuleSpec × ApiSpec} {answers : List (ModuleSpec × ApiSpec)}
    {stored stored' : α} :
    replay put (e :: answers) stored = some stored' ↔
      ∃ between, put e.1 e.2 stored = some between ∧ replay put answers between = some stored' := by
  rw [replay, List.foldlM_cons]
  exact Option.bind_eq_some_iff

/-- In states of a kind that every operation keeps, stores that succeed are the operations that
change what is stored. -/
structure Backend.Stores (b : Backend σ) (P : σ → Prop) (view : σ → α)
    (put : ModuleSpec → ApiSpec → α → Option α) : Prop where
  lookup : ∀ c s, P s → P (b.lookup c s).2 ∧ view (b.lookup c s).2 = view s
  generate : ∀ c s, P s → P (b.generate c s).2 ∧ view (b.generate c s).2 = view s
  store : ∀ c answer s s', P s → b.store c answer s = (.ok (), s') →
    P s' ∧ put c answer (view s) = some (view s')
  record : ∀ r s, P s → P (b.record r s) ∧ view (b.record r s) = view s

/-- The state is of the kind, and what is stored is what was stored with the answers so far put
in. -/
structure Progress.Replayed (P : σ → Prop) (view : σ → α)
    (put : ModuleSpec → ApiSpec → α → Option α) (stored : α) (p : Progress σ) : Prop where
  state : P p.state
  view : replay put (p.handled.filterMap answered?) stored = some (view p.state)

/-- How a run leaves what is stored, when these are the answers that it got: they have been put in,
or the last one was not kept and broke it off. -/
inductive Outcome.Leaves (b : Backend σ) (P : σ → Prop) (view : σ → α)
    (put : ModuleSpec → ApiSpec → α → Option α) (stored : α) (o : Outcome σ) :
    List (ModuleSpec × ApiSpec) → Prop where
  | replayed (h : o.progress.Replayed P view put stored) :
      Leaves b P view put stored o (o.progress.handled.filterMap answered?)
  | brokenOff {chunk : ModuleSpec} {answer : ApiSpec} {looked s : σ} {e : Failure}
      (hlookup : (b.lookup chunk looked).1 = .ok none) (hstate : P s)
      (hview : replay put (o.progress.handled.filterMap answered?) stored = some (view s))
      (hstore : b.store chunk answer s = (.error e, o.progress.state))
      (hresult : o.result = .error e) :
      Leaves b P view put stored o (o.progress.handled.filterMap answered? ++ [(chunk, answer)])

namespace Backend.Stores

theorem lookup_spec (hb : b.Stores P view put) {c : ModuleSpec} {s s₁ : σ}
    {r : Except Failure (Option ApiSpec)} (hs : P s) (h : b.lookup c s = (r, s₁)) :
    P s₁ ∧ view s₁ = view s := by
  have hlookup := hb.lookup c s hs
  rwa [h] at hlookup

/-- A chunk that is looked up and then put to the model leaves what is stored. -/
theorem generate_spec (hb : b.Stores P view put) {c : ModuleSpec} {s s₁ s₂ : σ}
    {r : Except Failure (Option ApiSpec)} {r' : Except Failure Generation} (hs : P s)
    (h : b.lookup c s = (r, s₁)) (h' : b.generate c s₁ = (r', s₂)) : P s₂ ∧ view s₂ = view s := by
  obtain ⟨hs₁, hview₁⟩ := hb.lookup_spec hs h
  have hgenerate := hb.generate c s₁ hs₁
  rw [h'] at hgenerate
  exact ⟨hgenerate.1, hgenerate.2.trans hview₁⟩

/-- An attempt that succeeds puts in the answer of its item if the model gave it, and otherwise
nothing. -/
theorem attempted (hb : b.Stores P view put) {item : WorkItem} {s s' : σ} {h : Handling} (hs : P s)
    (ha : Attempted b item s (.ok h, s')) :
    P s' ∧ replay put (answered? (item, h)).toList (view s) = some (view s') := by
  cases ha with
  | cached hlookup =>
    obtain ⟨hs', hview⟩ := hb.lookup_spec hs hlookup
    exact ⟨hs', congrArg some hview.symm⟩
  | answered hlookup hgenerate hstore =>
    obtain ⟨hs₂, hview₂⟩ := hb.generate_spec hs hlookup hgenerate
    obtain ⟨hs', hput⟩ := hb.store item.chunk _ _ _ hs₂ hstore
    rw [hview₂] at hput
    exact ⟨hs', replay_cons.mpr ⟨_, hput, rfl⟩⟩
  | split hlookup hgenerate | mapped hlookup hgenerate =>
    obtain ⟨hs₂, hview₂⟩ := hb.generate_spec hs hlookup hgenerate
    obtain ⟨hs', hview'⟩ := hb.record _ _ hs₂
    exact ⟨hs', congrArg some (hview'.trans hview₂).symm⟩

theorem poll (hb : b.Stores P view put) (signal : Option (Nat → Bool)) {p : Progress σ}
    (hp : P p.state) :
    P (p.poll b signal).state ∧ view (p.poll b signal).state = view p.state := by
  rcases p.poll_cases b signal with hpoll | hpoll | hpoll
  · rw [hpoll]
    exact ⟨hp, rfl⟩
  · rw [hpoll]
    exact ⟨hp, rfl⟩
  · rw [hpoll]
    exact hb.record _ _ hp

theorem recordAll (hb : b.Stores P view put) (rs : List Record) {s : σ} (hs : P s) :
    P (b.recordAll rs s) ∧ view (b.recordAll rs s) = view s := by
  induction rs generalizing s with
  | nil => exact ⟨hs, rfl⟩
  | cons r rs ih =>
    obtain ⟨hr, hview⟩ := hb.record r s hs
    obtain ⟨hrest, hviewRest⟩ := ih hr
    exact ⟨hrest, hviewRest.trans hview⟩

theorem replayed_poll (hb : b.Stores P view put) {stored : α} {p : Progress σ}
    (hp : p.Replayed P view put stored) : (p.poll b signal).Replayed P view put stored := by
  obtain ⟨hstate, hview⟩ := hb.poll signal hp.state
  refine ⟨hstate, ?_⟩
  rw [hview, Progress.poll_handled]
  exact hp.view

theorem replayed_step (hb : b.Stores P view put) {stored : α} {p q : Progress σ} {item : WorkItem}
    {rest : List WorkItem} (hp : p.Replayed P view put stored)
    (hs : Stepped b p item rest (.ok (), q)) : q.Replayed P view put stored := by
  have hnote : ∀ h : Handling, replay put ((p.handled ++ [(item, h)]).filterMap answered?) stored =
      replay put (answered? (item, h)).toList (view p.state) := by
    intro h
    have hanswers : (p.handled ++ [(item, h)]).filterMap answered? =
        p.handled.filterMap answered? ++ (answered? (item, h)).toList := by
      rw [List.filterMap_append, List.filterMap_cons, List.filterMap_nil]
      cases answered? (item, h) <;> rfl
    rw [hanswers, replay_append, hp.view, Option.bind_some]
  cases hs with
  | cancelled => exact ⟨hp.state, hnote .cancelled⟩
  | handled _ hattempt =>
    obtain ⟨hstate, hview⟩ := hb.attempted hp.state hattempt
    exact ⟨hstate, (hnote _).trans hview⟩

/-- A backend that is watched stores as it does unwatched. -/
theorem traced (hb : b.Stores P view put) :
    b.traced.Stores (fun t => P t.1) (fun t => view t.1) put where
  lookup c t := hb.lookup c t.1
  generate c t := hb.generate c t.1
  store c answer t t' ht h := by
    obtain ⟨hstored, rfl⟩ := Prod.mk.inj h
    exact hb.store c answer t.1 _ ht (Prod.ext hstored rfl)
  record r t := hb.record r t.1

/-- An attempt that fails, watched: it got no answer and nothing was put in, or its answer was not
kept. -/
theorem attempted_error (hb : b.Stores P view put) {item : WorkItem} {t t' : σ × List Effect}
    {e : Failure} (ht : P t.1) (ha : Attempted b.traced item t (.error e, t')) :
    (P t'.1 ∧ view t'.1 = view t.1 ∧ t'.2.filterMap Effect.success? =
      t.2.filterMap Effect.success?) ∨
      ∃ answer looked s, (b.lookup item.chunk looked).1 = .ok none ∧ P s ∧ view s = view t.1 ∧
        b.store item.chunk answer s = (.error e, t'.1) ∧
        t'.2.filterMap Effect.success? = t.2.filterMap Effect.success? ++
          [(item.chunk, answer)] := by
  cases ha with
  | lookupFailed hlookup =>
    obtain ⟨hstate, hview⟩ := hb.traced.lookup_spec ht hlookup
    obtain ⟨-, rfl⟩ := Prod.mk.inj hlookup
    refine .inl ⟨hstate, hview, ?_⟩
    rw [List.filterMap_append]
    exact List.append_nil _
  | generateFailed hlookup hgenerate =>
    obtain ⟨hstate, hview⟩ := hb.traced.generate_spec ht hlookup hgenerate
    obtain ⟨-, rfl⟩ := Prod.mk.inj hlookup
    obtain ⟨hfails, rfl⟩ := Prod.mk.inj hgenerate
    refine .inl ⟨hstate, hview, ?_⟩
    rw [hfails, List.append_assoc, List.filterMap_append]
    exact List.append_nil _
  | @storeFailed answer _ _ _ _ hlookup hgenerate hstore =>
    obtain ⟨hstate, hview⟩ := hb.traced.generate_spec ht hlookup hgenerate
    obtain ⟨hlooked, rfl⟩ := Prod.mk.inj hlookup
    obtain ⟨hanswer, rfl⟩ := Prod.mk.inj hgenerate
    obtain ⟨hfails, rfl⟩ := Prod.mk.inj hstore
    refine .inr ⟨answer, _, _, hlooked, hstate, hview, Prod.ext hfails rfl, ?_⟩
    rw [hanswer, List.append_assoc, List.append_assoc, List.filterMap_append]
    rfl

/-- After a run there is stored what was stored before, with the answers that it got put in, in
order; but the last of them is not if it broke the run off. -/
theorem leaves (hb : b.Stores P view put) (hsize : 1 ≤ plan.size) (m : ModuleSpec)
    {s : σ} (hs : P s) :
    (transform b plan m s).Leaves b P view put (view s)
      ((effects b plan m s).filterMap Effect.success?) := by
  let I (p : Progress (σ × List Effect)) : Prop :=
    p.Replayed (fun t => P t.1) (fun t => view t.1) put (view s) ∧ p.Shown
  have hstart : I (startOf plan m (s, [])) := ⟨⟨hs, rfl⟩, .nil⟩
  have hpoll : ∀ p, I p → I (p.poll b.traced plan.signal) :=
    fun p hp => ⟨hb.traced.replayed_poll hp.1, hp.2.poll⟩
  have hstep : ∀ p item rest q, p.pending = item :: rest → I p →
      Stepped b.traced p item rest (.ok (), q) → I q :=
    fun p item rest q _ hp hstep => ⟨hb.traced.replayed_step hp.1 hstep, hp.2.step hstep⟩
  rw [effects, ← transform_traced b plan m s []]
  rcases transform_cases b.traced m (s, ([] : List Effect)) hsize with ⟨q, hq, ho⟩ | ⟨e, q, hq, ho⟩
  · obtain ⟨hreplayed, hshown⟩ := hq.invariant_of_ok hstart hpoll hstep
    obtain ⟨hstate, hview⟩ := hb.traced.recordAll
      (endRecord m q.finalStats :: ApiSpec.mergeRecords (q.fragments.map Fragment.answer))
        hreplayed.state
    rw [ho, Progress.conclude, recordAll_traced, hshown.successes]
    exact .replayed ⟨hstate, hreplayed.view.trans (congrArg some hview.symm)⟩
  · obtain ⟨p, item, rest, ⟨hreplayed, hshown⟩, -, hq, hattempt⟩ :=
      hq.exists_attempted hstart hpoll hstep
    have hhandled : q.handled = p.handled := by rw [hq]
    have hbefore : replay put (q.handled.filterMap answered?) (view s) = some (view p.state.1) := by
      rw [hhandled]
      exact hreplayed.view
    rw [ho]
    change Outcome.Leaves b P view put (view s) ⟨.error e, q.view Prod.fst⟩
      (q.state.2.filterMap Effect.success?)
    rcases hb.attempted_error hreplayed.state hattempt with
      ⟨hstate, hview, hanswers⟩ | ⟨answer, _, s', hlookup, hstate, hview, hstore, hanswers⟩
    · rw [hanswers, hshown.successes, ← hhandled]
      exact .replayed ⟨hstate, hbefore.trans (congrArg some hview.symm)⟩
    · rw [hanswers, hshown.successes, ← hhandled]
      exact .brokenOff hlookup hstate (hbefore.trans (congrArg some hview.symm)) hstore rfl

/-- A run that succeeds has put in all answers that it got. -/
theorem replayed_of_ok (hb : b.Stores P view put) (hsize : 1 ≤ plan.size) {s : σ} (hs : P s)
    {api : ApiSpec} (hok : (transform b plan m s).result = .ok api) :
    (transform b plan m s).progress.Replayed P view put (view s) := by
  have hleaves := hb.leaves hsize m hs
  generalize hanswers : (effects b plan m s).filterMap Effect.success? = answers at hleaves
  cases hleaves with
  | replayed h => exact h
  | brokenOff _ _ _ _ hresult => simp [hok] at hresult

end Backend.Stores

/-! ### A cache in a directory -/

variable {κ : Type} {c : Cache}
  {ask : ModuleSpec → Session κ → Except Failure Generation × Session κ}
  {place : List String} {s : Session κ}

/-- A way to put a chunk to a model; it may fail for good, as a program may. -/
abbrev Asking (κ : Type) := ModuleSpec → Session κ → Except Failure Generation × Session κ

/-- The backend of a cache and a way to ask. -/
def backendOf (c : Cache) (ask : Asking κ) : Backend (Session κ) where
  lookup m s := ((c.lookup m s.workspace).1, { s with workspace := (c.lookup m s.workspace).2 })
  generate := ask
  store m answer s :=
    ((c.store m answer s.workspace).1, { s with workspace := (c.store m answer s.workspace).2 })
  record r s := s.record r

/-- To ask changes no file. -/
def Asking.LeavesFiles (ask : Asking κ) : Prop :=
  ∀ chunk s, (ask chunk s).2.workspace.SameFiles s.workspace

/-- What is at every place. -/
abbrev Files := List String → Option FileEntry

/-- Put the text of an answer into the file of its chunk, if there are a text and a key. -/
def putAnswer (place : List String) (chunk : ModuleSpec) (answer : ApiSpec) (files : Files) :
    Option Files := do
  let key ← chunk.contentKey
  let text ← answer.prettyText
  return Function.update files (place ++ [Cache.entryName key]) (some (.file (encodeText text)))

theorem putAnswer_eq_some_iff {chunk : ModuleSpec} {answer : ApiSpec} {files files' : Files} :
    putAnswer place chunk answer files = some files' ↔
      ∃ key text, chunk.contentKey = some key ∧ answer.prettyText = some text ∧
        Function.update files (place ++ [Cache.entryName key]) (some (.file (encodeText text))) =
          files' := by
  simp [putAnswer, Option.bind_eq_some_iff]

theorem stores_backendOf (c : Cache) (place : List String) (hleaves : Asking.LeavesFiles ask) :
    (backendOf c ask).Stores (fun s => c.WorksIn place s.workspace) (fun s => s.workspace.tree.get?)
      (putAnswer place) where
  lookup chunk s hs := by
    have hsame := Cache.lookup_files c chunk s.workspace
    exact ⟨hs.of_sameFiles hsame, congrArg FileTree.get? hsame.tree⟩
  generate chunk s hs := by
    have hsame := hleaves chunk s
    exact ⟨hs.of_sameFiles hsame, congrArg FileTree.get? hsame.tree⟩
  store chunk answer s s' hs h := by
    obtain ⟨hstored, rfl⟩ := Prod.mk.inj h
    obtain ⟨key, text, hkey, htext, hget⟩ := hs.exists_of_store (Prod.ext hstored rfl)
    exact ⟨hs.store chunk answer, putAnswer_eq_some_iff.mpr ⟨key, text, hkey, htext, hget.symm⟩⟩
  record r s hs := ⟨hs.of_sameFiles ⟨rfl, rfl⟩, rfl⟩

/-- A place that no answer goes to. -/
def IsSpared (place : List String) (answers : List (ModuleSpec × ApiSpec)) (q : List String) :
    Prop :=
  ∀ e ∈ answers, ∀ key, e.1.contentKey = some key → q ≠ place ++ [Cache.entryName key]

theorem replay_putAnswer_of_isSpared {answers : List (ModuleSpec × ApiSpec)} {q : List String}
    {files files' : Files} (hq : IsSpared place answers q)
    (h : replay (putAnswer place) answers files = some files') : files' q = files q := by
  induction answers generalizing files with
  | nil =>
    obtain rfl := Option.some.inj h
    rfl
  | cons e rest ih =>
    obtain ⟨hfirst, hrest⟩ := List.forall_mem_cons.mp hq
    obtain ⟨between, hput, h⟩ := replay_cons.mp h
    obtain ⟨key, text, hkey, -, rfl⟩ := putAnswer_eq_some_iff.mp hput
    rw [ih hrest h, Function.update_of_ne (hfirst key hkey)]

/-- A run that was broken off by an answer that cannot be written.  The answers before it have been
put into the files, and besides there is an empty temporary file. -/
structure BrokenOff (o : Outcome (Session κ)) (place : List String) (s : Session κ)
    (answer : ApiSpec) (name : String) : Prop where
  unwritten : answer.prettyText = none
  result : o.result = .error (.badValue .tooLongToWrite)
  isTemporary : Storing.IsTemporaryName name
  files : ∃ files, replay (putAnswer place) (o.progress.handled.filterMap answered?)
      s.workspace.tree.get? = some files ∧ files (place ++ [name]) = none ∧
    o.progress.state.workspace.tree.get? =
      Function.update files (place ++ [name]) (some (.file ⟨#[]⟩))

/-- What a run keeps, and where: the model's answers and nothing else are stored, those of the items
that the model answered; their texts are put into the files of their chunks, in order; and
everything else is left as it was.  An answer that cannot be written is the last one and leaves an
empty temporary file. -/
structure OnlyAnswersKept (b : Backend (Session κ)) (place : List String) (plan : Plan)
    (m : ModuleSpec) (s : Session κ) : Prop where
  stored : (effects b plan m s).filterMap Effect.stored? =
    (effects b plan m s).filterMap Effect.success?
  files :
    ((effects b plan m s).filterMap Effect.success? =
        (transform b plan m s).progress.handled.filterMap answered? ∧
      replay (putAnswer place) ((effects b plan m s).filterMap Effect.success?)
        s.workspace.tree.get? =
        some (transform b plan m s).progress.state.workspace.tree.get?) ∨
    ∃ chunk answer name, (effects b plan m s).filterMap Effect.success? =
        (transform b plan m s).progress.handled.filterMap answered? ++ [(chunk, answer)] ∧
      BrokenOff (transform b plan m s) place s answer name
  frame : ∀ q, IsSpared place ((effects b plan m s).filterMap Effect.success?) q →
    (transform b plan m s).progress.state.workspace.tree.get? q = s.workspace.tree.get? q ∨
    ∃ answer name, q = place ++ [name] ∧ s.workspace.tree.get? q = none ∧
      BrokenOff (transform b plan m s) place s answer name

theorem brokenOff_of_store {o : Outcome (Session κ)} {before : Session κ} {chunk : ModuleSpec}
    {answer : ApiSpec} {e : Failure} (hworks : c.WorksIn place before.workspace)
    (hkey : ¬ c.LacksKey chunk)
    (hview : replay (putAnswer place) (o.progress.handled.filterMap answered?)
      s.workspace.tree.get? =
      some before.workspace.tree.get?)
    (hstore : (backendOf c ask).store chunk answer before = (.error e, o.progress.state))
    (hresult : o.result = .error e) : ∃ name, BrokenOff o place s answer name := by
  obtain ⟨key, hkey⟩ := Option.ne_none_iff_exists'.mp fun hnone => hkey ⟨hworks.isUsed, hnone⟩
  cases htext : answer.prettyText with
  | some text =>
    obtain ⟨_, hstores, -⟩ := hworks.store_spec hkey htext
    have hfails := congrArg Prod.fst hstore
    simp [backendOf, hstores] at hfails
  | none =>
    obtain ⟨tree, name, hfails, hname, hfree, hget⟩ := hworks.store_of_no_text hkey htext
    obtain ⟨he, hstate⟩ := Prod.mk.inj hstore
    rw [hfails] at he hstate
    obtain rfl := Except.error.inj he
    exact ⟨name, htext, hresult, hname, _, hview, hfree, by rw [← hstate]; exact hget⟩

/-- Whatever happens in a run, be it cancelled or even broken off: only answers that the model gave
in it get into the cache. -/
theorem only_answers_are_kept (c : Cache) (ask : Asking κ) (plan : Plan) (m : ModuleSpec)
    (s : Session κ) (hworks : c.WorksIn place s.workspace) (hleaves : ask.LeavesFiles) :
    OnlyAnswersKept (backendOf c ask) place plan m s := by
  by_cases hsize : 1 ≤ plan.size
  · have hends := (stores_backendOf c place hleaves).leaves hsize m hworks
    have hstored := stores_effects (b := backendOf c ask) (m := m) (s := s) hsize
    generalize hanswers :
      (effects (backendOf c ask) plan m s).filterMap Effect.success? = answers at hends
    cases hends with
    | replayed h =>
      refine ⟨hstored, .inl ⟨hanswers, hanswers ▸ h.view⟩, fun q hq => .inl ?_⟩
      exact replay_putAnswer_of_isSpared hq (hanswers ▸ h.view)
    | @brokenOff chunk answer looked before e hlookup hstate hview hstore hresult =>
      have hkey : ¬ c.LacksKey chunk := by
        intro hlacks
        have hlookup : (c.lookup chunk looked.workspace).1 = .ok none := hlookup
        rw [Cache.lookup_of_lacksKey hlacks] at hlookup
        cases hlookup
      obtain ⟨name, hbroken⟩ := brokenOff_of_store hstate hkey hview hstore hresult
      refine ⟨hstored, .inr ⟨chunk, answer, name, hanswers, hbroken⟩, fun q hq => ?_⟩
      obtain ⟨files, hreplay, hfree, hget⟩ := hbroken.files
      rw [hanswers] at hq
      have hbefore : files q = s.workspace.tree.get? q :=
        replay_putAnswer_of_isSpared (fun e he => hq e (List.mem_append_left _ he)) hreplay
      by_cases htemporary : q = place ++ [name]
      · exact .inr ⟨answer, name, htemporary, by rw [← hbefore, htemporary, hfree], hbroken⟩
      · rw [hget, Function.update_of_ne htemporary]
        exact .inl hbefore
  · -- a size that is none ends the run before anything is asked
    have hchunks : m.chunksOf plan.size = .error ⟨plan.size⟩ := by
      rw [ModuleSpec.chunksOf, if_pos (by omega)]
    constructor
    · simp only [effects, transform, hchunks]
      rfl
    · simp only [effects, transform, hchunks]
      exact .inl ⟨rfl, rfl⟩
    · simp only [effects, transform, hchunks]
      simp

theorem worksIn_bareWorkspace : storedCache.WorksIn ["cache"] bareWorkspace where
  enabled := rfl
  located := ⟨_, rfl, by decide⟩
  directory := rfl
  entries m key _ := by simp [bareWorkspace, FileTree.get?, List.lookup_cons]

/-- A model that has the same answer to everything. -/
def willing : Asking Unit := fun _ s => (.ok (.success ApiSpec.couponApi), s)

theorem leavesFiles_willing : willing.LeavesFiles := fun _ _ => ⟨rfl, rfl⟩

theorem only_answers_are_kept_willing :
    storedCache.WorksIn ["cache"] bareWorkspace ∧ willing.LeavesFiles ∧
      OnlyAnswersKept (backendOf storedCache willing) ["cache"] { size := 3 } itemModule
        ⟨bareWorkspace, ()⟩ :=
  ⟨worksIn_bareWorkspace, leavesFiles_willing,
    only_answers_are_kept storedCache willing { size := 3 }
    itemModule ⟨bareWorkspace, ()⟩ worksIn_bareWorkspace leavesFiles_willing⟩

end ServiceMigration.Run
