import ServiceMigration.Proofs.Mapping.Reference
import ServiceMigration.Proofs.Run.Coverage
import ServiceMigration.Proofs.Run.Provenance
/-!
# Runs without answers

A run whose cache holds nothing and whose model never has an answer maps every chunk by rule,
knowing no more than the data-transfer types of the chunk.  The API is nevertheless that of the
module: its routes are those of the mapping of the whole, and its models are those of the types that
are declared first under their names.
-/

namespace ServiceMigration.Run

open Completion Mapping

variable {σ : Type} {b : Backend σ} {signal : Option (Nat → Bool)} {m c : ModuleSpec} {size : Int}
  {P : σ → Prop} {barred : ModuleSpec → Prop}

/-! ### Silent backends -/

/-- From a state of some kind on nothing is found and nothing is answered, and the kind of state
stays.  Only a chunk that is barred cannot even be looked up. -/
structure Backend.Silent (b : Backend σ) (P : σ → Prop) (barred : ModuleSpec → Prop) : Prop where
  lookup : ∀ c s, P s → ¬ barred c → ∃ s', b.lookup c s = (.ok none, s') ∧ P s'
  bars : ∀ c s, P s → barred c → ∃ e s', b.lookup c s = (.error e, s')
  generate : ∀ c s, P s →
    ∃ kind explanation s', b.generate c s = (.ok (.failed kind explanation), s') ∧ P s'
  record : ∀ r s, P s → P (b.record r s)

/-- An attempt splits the item or maps it, unless its chunk is barred. -/
theorem Attempted.of_silent {item : WorkItem} {s : σ} {r : Except Failure Handling × σ}
    (h : Attempted b item s r) (hb : b.Silent P barred) (hs : P s) (hfree : ¬ barred item.chunk) :
    P r.2 ∧ (r.1 = .ok .split ∨ ∃ kind, r.1 = .ok (.mapped kind)) := by
  obtain ⟨s₁, hlookup₁, hs₁⟩ := hb.lookup item.chunk s hs hfree
  obtain ⟨kind₁, explanation₁, s₂, hgenerate₁, hs₂⟩ := hb.generate item.chunk s₁ hs₁
  cases h with
  | lookupFailed hlookup | cached hlookup => simp [hlookup₁] at hlookup
  | generateFailed hlookup hgenerate | answered hlookup hgenerate | storeFailed hlookup hgenerate =>
    obtain ⟨-, rfl⟩ := Prod.mk.inj (hlookup₁.symm.trans hlookup)
    simp [hgenerate₁] at hgenerate
  | split hlookup hgenerate =>
    obtain ⟨-, rfl⟩ := Prod.mk.inj (hlookup₁.symm.trans hlookup)
    obtain ⟨-, rfl⟩ := Prod.mk.inj (hgenerate₁.symm.trans hgenerate)
    exact ⟨hb.record _ _ hs₂, .inl rfl⟩
  | mapped hlookup hgenerate =>
    obtain ⟨-, rfl⟩ := Prod.mk.inj (hlookup₁.symm.trans hlookup)
    obtain ⟨-, rfl⟩ := Prod.mk.inj (hgenerate₁.symm.trans hgenerate)
    exact ⟨hb.record _ _ hs₂, .inr ⟨_, rfl⟩⟩

theorem Attempted.not_barred {item : WorkItem} {s s' : σ} {h : Handling}
    (ha : Attempted b item s (.ok h, s')) (hb : b.Silent P barred) (hs : P s) :
    ¬ barred item.chunk := by
  intro hbarred
  obtain ⟨e, s₁, herror⟩ := hb.bars item.chunk s hs hbarred
  cases ha with
  | cached hlookup | answered hlookup | split hlookup | mapped hlookup => simp [herror] at hlookup

theorem Attempted.barred_of_error {item : WorkItem} {s s' : σ} {e : Failure}
    (ha : Attempted b item s (.error e, s')) (hb : b.Silent P barred) (hs : P s) :
    barred item.chunk := by
  by_contra hfree
  obtain ⟨-, hsplit | ⟨kind, hkind⟩⟩ := ha.of_silent hb hs hfree
  · simp at hsplit
  · simp at hkind

/-- The state is of that kind, and the fragments so far have been mapped from their chunks. -/
structure Progress.Mapped (P : σ → Prop) (p : Progress σ) : Prop where
  state : P p.state
  fragments : ∀ fragment ∈ p.fragments, fragment.answer = api fragment.chunk

namespace Progress.Mapped

variable {p : Progress σ} {item : WorkItem} {rest : List WorkItem}

theorem note (h : p.Mapped P) {s : σ} (hs : P s) {handling : Handling}
    (hmapped : ∀ answer, handling.fragment? item.chunk = some answer → answer = api item.chunk) :
    (p.note s item rest handling).Mapped P where
  state := hs
  fragments := by
    intro fragment hfragment
    rcases List.mem_append.mp hfragment with hold | hnew
    · exact h.fragments fragment hold
    · obtain ⟨answer, hanswer, rfl⟩ := Option.map_eq_some_iff.mp (Option.mem_toList.mp hnew)
      exact hmapped answer hanswer

theorem poll (h : p.Mapped P) (hb : b.Silent P barred) : (p.poll b signal).Mapped P := by
  refine ⟨?_, fun fragment hfragment => h.fragments fragment (by simpa using hfragment)⟩
  rcases p.poll_cases b signal with hpoll | hpoll | hpoll
  · rw [hpoll]
    exact h.state
  · rw [hpoll]
    exact h.state
  · rw [hpoll]
    exact hb.record _ _ h.state

theorem step {q : Progress σ} (h : p.Mapped P) (hb : b.Silent P barred)
    (hs : Stepped b p item rest (.ok (), q)) : q.Mapped P := by
  cases hs with
  | cancelled => exact h.note h.state (by simp [Handling.fragment?])
  | handled _ hattempt =>
    obtain ⟨hstate, hsplit | ⟨kind, hkind⟩⟩ :=
      hattempt.of_silent hb h.state (hattempt.not_barred hb h.state)
    · obtain rfl := Except.ok.inj hsplit
      exact h.note hstate (by simp [Handling.fragment?])
    · obtain rfl := Except.ok.inj hkind
      exact h.note hstate (by simp [Handling.fragment?])

end Progress.Mapped

/-- The fragments of a run over a silent backend that succeeds are all mapped. -/
theorem Finished.mapped {p q : Progress σ} (h : Finished b signal p (.ok (), q))
    (hb : b.Silent P barred) (hp : p.Mapped P) : q.Mapped P :=
  h.invariant_of_ok hp (fun _ hp => hp.poll hb) fun _ _ _ _ _ hp hs => hp.step hb hs

/-- A run over a silent backend that fails has come to a chunk that is barred. -/
theorem Finished.exists_barred {p q : Progress σ} {e : Failure}
    (h : Finished b signal p (.error e, q)) (hb : b.Silent P barred) (hp : p.Mapped P) :
    ∃ item rest, q.pending = item :: rest ∧ barred item.chunk := by
  obtain ⟨p', item, rest, hmapped, hpending, hq, hattempt⟩ :=
    h.exists_attempted hp (fun _ hp => hp.poll hb) fun _ _ _ _ _ hp hs => hp.step hb hs
  exact ⟨item, rest, by rw [hq, hpending], hattempt.barred_of_error hb hmapped.state⟩

/-! ### Fragments that are mapped -/

theorem IsChunkOf.routes (h : IsChunkOf size m c) (hnames : ∀ d ∈ m.dtos, simpleName d.name ≠ "") :
    (api c).routes = c.endpoints.map (route (knownNames m.dtos)) := by
  rcases h with ⟨rfl, -⟩ | ⟨hwindow, -⟩
  · rfl
  · exact List.map_congr_left fun e he => route_window hwindow hnames he

theorem IsChunkOf.firstDeclared {name : String} {d : Dto} (h : IsChunkOf size m c)
    (hd : firstDeclared name c.dtos = some d) : firstDeclared name m.dtos = some d := by
  rcases h with ⟨rfl, -⟩ | ⟨hwindow, -⟩
  · exact hd
  · exact firstDeclared_of_window hwindow hd

/-- An API is the mapping of a module up to models that are not needed or come too late: the routes
are the same, and there is one model of a name, that of the first type that is declared under it. -/
structure AgreesWithMapping (m : ModuleSpec) (a : ApiSpec) : Prop where
  routes : a.routes = (api m).routes
  models : ∀ x ∈ a.models, ∃ d, firstDeclared x.name m.dtos = some d ∧ x = model d
  nodup : (a.models.map (·.name)).Nodup

/-- Mapped fragments of chunks that cover a module agree with its mapping when they are merged. -/
theorem agreesWithMapping_merge {fragments : List Fragment}
    (hnames : ∀ d ∈ m.dtos, simpleName d.name ≠ "")
    (hcovered : coveredEndpoints fragments = m.endpoints)
    (hchunks : ∀ fragment ∈ fragments, IsChunkOf size m fragment.chunk)
    (hmapped : ∀ fragment ∈ fragments, fragment.answer = api fragment.chunk) :
    AgreesWithMapping m (ApiSpec.merge (fragments.map Fragment.answer)) where
  routes := by
    have hroutes : ∀ fragment ∈ fragments,
        fragment.answer.routes = fragment.chunk.endpoints.map (route (knownNames m.dtos)) := by
      intro fragment hfragment
      rw [hmapped fragment hfragment, (hchunks fragment hfragment).routes hnames]
    rw [ApiSpec.routes_merge_map hroutes]
    exact congrArg (List.map (route (knownNames m.dtos))) hcovered
  models := by
    intro x hx
    obtain ⟨answer, hanswer, hx⟩ := ApiSpec.exists_part_of_mem_models hx
    obtain ⟨fragment, hfragment, rfl⟩ := List.mem_map.mp hanswer
    rw [hmapped fragment hfragment] at hx
    have hx : ApiSpec.firstNamed x.name (fragment.chunk.dtos.map model) = some x := hx
    rw [firstNamed_map_model] at hx
    obtain ⟨d, hd, rfl⟩ := Option.map_eq_some_iff.mp hx
    exact ⟨d, (hchunks fragment hfragment).firstDeclared hd, rfl⟩
  nodup := (ApiSpec.keepsFirst_merge _).nodup

/-- A run over a silent backend has only mapped fragments, or it has come to a chunk that is
barred. -/
theorem Backend.Silent.transform_cases {plan : Plan} {s : σ} (hb : b.Silent P barred) (hs : P s)
    (hsize : 1 ≤ plan.size) :
    (∃ q, Finished b plan.signal (startOf plan m s) (.ok (), q) ∧
      transform b plan m s = q.conclude b m ∧ q.Mapped P) ∨
    ∃ e item rest, (transform b plan m s).result = .error e ∧
      (transform b plan m s).progress.pending = item :: rest ∧ barred item.chunk := by
  have hstart : (startOf plan m s).Mapped P := ⟨hs, by simp [startOf]⟩
  rcases Run.transform_cases b m s hsize with ⟨q, hq, ho⟩ | ⟨e, q, hq, ho⟩
  · exact .inl ⟨q, hq, ho, hq.mapped hb hstart⟩
  · obtain ⟨item, rest, hpending, hbarred⟩ := hq.exists_barred hb hstart
    rw [ho]
    exact .inr ⟨e, item, rest, rfl, hpending, hbarred⟩

/-- What a run over a silent backend returns agrees with the mapping of the module. -/
theorem Backend.Silent.agrees {plan : Plan} {s : σ} {a : ApiSpec}
    (hb : b.Silent P barred) (hs : P s)
    (hsize : 1 ≤ plan.size) (hnames : ∀ d ∈ m.dtos, simpleName d.name ≠ "")
    (hok : (transform b plan m s).result = .ok a) : AgreesWithMapping m a := by
  rcases hb.transform_cases (m := m) hs hsize with ⟨q, hq, ho, hmapped⟩ | ⟨e, _, _, herror, -⟩
  · have hcovers : Covers m (q.conclude b m) :=
      (hq.tiles (tiles_startOf hsize m s)).covers hq.pending_eq_nil
    have htraced := hq.traced (traced_startOf hsize m s)
    have hchunks : ∀ fragment ∈ q.fragments, IsChunkOf plan.size m fragment.chunk := by
      intro fragment hfragment
      obtain ⟨item, hitem, hchunk⟩ := htraced.fragments fragment hfragment
      exact hchunk ▸ htraced.items item hitem
    rw [ho] at hok
    obtain rfl : ApiSpec.merge (q.fragments.map Fragment.answer) = a := Except.ok.inj hok
    exact agreesWithMapping_merge hnames hcovers.endpoints hchunks hmapped.fragments
  · simp [herror] at hok

/-- A run over a silent backend succeeds exactly if no chunk that is barred is left in the end. -/
theorem Backend.Silent.result_ok_iff {plan : Plan} {s : σ} (hb : b.Silent P barred) (hs : P s)
    (hsize : 1 ≤ plan.size) :
    (∃ a, (transform b plan m s).result = .ok a) ↔
      ∀ item ∈ (transform b plan m s).progress.pending.head?, ¬ barred item.chunk := by
  rcases hb.transform_cases (m := m) hs hsize with ⟨q, hq, ho, -⟩ |
    ⟨e, item, rest, herror, hpending, hbarred⟩
  · have hnone : (transform b plan m s).progress.pending = [] := by
      rw [ho]
      exact hq.pending_eq_nil
    refine iff_of_true ⟨_, by rw [ho]; rfl⟩ fun item hitem => ?_
    simp [hnone] at hitem
  · refine iff_of_false (fun ⟨a, ha⟩ => by simp [herror] at ha) fun hfree => ?_
    exact hfree item (by simp [hpending]) hbarred

/-- Where no chunk of the module is barred, a run over a silent backend succeeds. -/
theorem Backend.Silent.succeeds {plan : Plan} {s : σ} (hb : b.Silent P barred) (hs : P s)
    (hsize : 1 ≤ plan.size) (hfree : ∀ c, IsChunkOf plan.size m c → ¬ barred c) :
    ∃ a, (transform b plan m s).result = .ok a := by
  refine (hb.result_ok_iff hs hsize).mpr fun item hitem => hfree item.chunk ?_
  have hpending : item ∈ (transform b plan m s).progress.pending := List.mem_of_mem_head? hitem
  exact (traced_transform b hsize m s).items item (List.mem_append_right _ hpending)

/-! ### A cache that holds nothing -/

variable {κ : Type}

/-- A generator puts no entry into a cache that holds nothing. -/
def Responder.LeavesEmpty (g : Responder κ) (k : Cache) : Prop :=
  ∀ chunk s, k.HoldsNothing s.workspace → k.HoldsNothing (g chunk s).2.workspace

/-- A cache that holds nothing is silent together with a generator that has no answers; it bars
chunks without a key. -/
theorem silent_backend {k : Cache} {g : Responder κ}
    (hanswers : ∀ chunk s answer, (g chunk s).1 ≠ .success answer) (hleaves : g.LeavesEmpty k) :
    (k.backend g).Silent (fun s => k.HoldsNothing s.workspace) k.LacksKey where
  lookup chunk s hs hkey := by
    refine ⟨_, Prod.ext (Cache.lookup_of_holdsNothing hs hkey) rfl, ?_⟩
    exact hs.of_sameFiles (Cache.lookup_files k chunk s.workspace)
  bars chunk s _ hlacks := by
    obtain ⟨e, he⟩ := Cache.lookup_error_iff.mpr (.inl hlacks)
    exact ⟨e, _, Prod.ext he rfl⟩
  generate chunk s hs := by
    cases houtcome : (g chunk s).1 with
    | success answer => exact absurd houtcome (hanswers chunk s answer)
    | failed kind explanation =>
      refine ⟨kind, explanation, (g chunk s).2, ?_, hleaves chunk s hs⟩
      simp [Cache.backend, houtcome]
  record _ _ hs := hs.of_sameFiles ⟨rfl, rfl⟩

/-- The chunks of a module have no numbers that the module does not have. -/
theorem IsChunkOf.hasLongNumber_eq_false (h : IsChunkOf size m c)
    (hm : m.toValue.hasLongNumber = false) : c.toValue.hasLongNumber = false := by
  rcases h with ⟨rfl, -⟩ | ⟨hwindow, -⟩
  · exact hm
  · rw [ModuleSpec.hasLongNumber_toValue] at hm ⊢
    simp only [Bool.or_eq_false_iff, List.any_eq_false] at hm ⊢
    obtain ⟨⟨⟨hendpoints, hdtos⟩, -⟩, -⟩ := hm
    refine ⟨⟨⟨fun e he => hendpoints e (hwindow.endpoints.subset he),
      fun d hd => hdtos d ?_⟩, ?_⟩, ?_⟩
    · rw [hwindow.dtos] at hd
      exact Chunk.subset_requiredDtos _ _ hd
    · simp [hwindow.services]
    · simp [hwindow.repositories]

/-- No chunk of a module lacks a key if the cache is not used, or if all numbers of the module can
be written. -/
theorem IsChunkOf.not_lacksKey {k : Cache} (h : IsChunkOf size m c)
    (hm : k.IsUsed → m.toValue.hasLongNumber = false) : ¬ k.LacksKey c := by
  rintro ⟨hused, hnone⟩
  have hshort := h.hasLongNumber_eq_false (hm hused)
  rw [ModuleSpec.contentKey_eq_none_iff.mp hnone] at hshort
  cases hshort

/-- Without answers the size of the chunks, the budget for splits and a cancellation make no
difference to what a run returns: the routes are those of the mapping of the whole module, and of
the types of one simple name the first declared has a model, if one has.  It returns unless it comes
to a chunk that has no key to look it up by, which none has if the cache is not used, or if the
numbers of the module can be written. -/
theorem unanswered_run_agrees_with_mapping (k : Cache) (g : Responder κ) {plan : Plan}
    (m : ModuleSpec) (s : Session κ) (hsize : 1 ≤ plan.size)
    (hnames : ∀ d ∈ m.dtos, simpleName d.name ≠ "") (hempty : k.HoldsNothing s.workspace)
    (hanswers : ∀ chunk s answer, (g chunk s).1 ≠ .success answer) (hleaves : g.LeavesEmpty k) :
    (∀ a, (transform (k.backend g) plan m s).result = .ok a → AgreesWithMapping m a) ∧
    ((∃ a, (transform (k.backend g) plan m s).result = .ok a) ↔
      ∀ item ∈ (transform (k.backend g) plan m s).progress.pending.head?,
        ¬ k.LacksKey item.chunk) ∧
    ((k.IsUsed → m.toValue.hasLongNumber = false) →
      ∃ a, (transform (k.backend g) plan m s).result = .ok a) := by
  have hsilent := silent_backend hanswers hleaves
  exact ⟨fun a => hsilent.agrees hempty hsize hnames, hsilent.result_ok_iff hempty hsize,
    fun hm => hsilent.succeeds hempty hsize fun _ hchunk => hchunk.not_lacksKey hm⟩

def bareWorkspace : Workspace where
  tree.entries := [(["cache"], .directory)]

theorem holdsNothing_bareWorkspace : storedCache.HoldsNothing bareWorkspace := by
  intro _ m content hentry
  obtain ⟨d, key, -, hkey⟩ := Cache.exists_of_entryAt? hentry
  rw [Cache.entryAt?_eq_get? ["cache"] rfl hkey (by decide) rfl] at hentry
  simp [bareWorkspace, FileTree.get?, List.lookup_cons] at hentry

theorem itemModule_agrees_with_mapping :
    1 ≤ ({ size := 3 } : Plan).size ∧ (∀ d ∈ itemModule.dtos, simpleName d.name ≠ "") ∧
      storedCache.HoldsNothing bareWorkspace ∧
      (∀ chunk s answer, (refusing chunk s).1 ≠ .success answer) ∧
      refusing.LeavesEmpty storedCache ∧
      ∃ a, (transform (storedCache.backend refusing) { size := 3 } itemModule
          ⟨bareWorkspace, ()⟩).result = .ok a ∧ AgreesWithMapping itemModule a := by
  have hsize : 1 ≤ ({ size := 3 } : Plan).size := by decide
  have hnames : ∀ d ∈ itemModule.dtos, simpleName d.name ≠ "" := by decide
  have hanswers : ∀ chunk s answer, (refusing chunk s).1 ≠ .success answer := by simp [refusing]
  have hleaves : refusing.LeavesEmpty storedCache := fun _ _ h => h
  obtain ⟨hagrees, -, hreturns⟩ :=
    unanswered_run_agrees_with_mapping storedCache refusing itemModule
    ⟨bareWorkspace, ()⟩ hsize hnames holdsNothing_bareWorkspace hanswers hleaves
  obtain ⟨a, ha⟩ := hreturns fun _ => by decide
  exact ⟨hsize, hnames, holdsNothing_bareWorkspace, hanswers, hleaves, a, ha, hagrees a ha⟩

/-! ### A module that cannot be written -/

/-- A module of one endpoint with this status. -/
def statusModule (status : Int) : ModuleSpec where
  projectName := "shop"
  moduleName := "items"
  endpoints := [{ itemEndpoint "list" with statusCode := some status }]

theorem contentKey_statusModule {status : Int} (h : (Scalar.int status).isLongNumber = true) :
    (statusModule status).contentKey = none := by
  rw [ModuleSpec.contentKey_eq_none_iff, ModuleSpec.hasLongNumber_toValue]
  simp [statusModule, Endpoint.toValue, Value.hasLongNumber_object, Value.optional, h]

/-- With an empty cache the run over such a module fails, though every call and every file is as it
should be. -/
theorem statusModule_not_mapped :
    storedCache.HoldsNothing bareWorkspace ∧
      ¬ ∃ a, (transform (storedCache.backend refusing) { size := 1 }
        (statusModule Scalar.longNumber) ⟨bareWorkspace, ()⟩).result = .ok a := by
  have hnone := contentKey_statusModule Scalar.isLongNumber_longNumber
  have hlacks : storedCache.LacksKey (statusModule Scalar.longNumber) := ⟨⟨rfl, _, rfl⟩, hnone⟩
  exact ⟨holdsNothing_bareWorkspace, not_ok_of_lookup (by decide) rfl rfl (.inl hlacks)⟩

end ServiceMigration.Run
