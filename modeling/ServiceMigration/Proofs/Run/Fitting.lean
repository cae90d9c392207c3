import ServiceMigration.Proofs.Chunk.Distance
import ServiceMigration.Proofs.Chunk.Partition
import ServiceMigration.Proofs.Run.Fallback
/-!
# Runs over a module that fits

A module within the size of a plan begins as one chunk.  A run without answers maps it as a whole,
and then only models of a name that an earlier one has are missing from the mapping; or it splits
it, and then the API is merged from the mappings of windows, which carry no data-transfer type that
no endpoint needs (`MergedFromWindows`).  Which of the two it is shows in the splits that the run
has counted.  The invariant is that a run waits for the whole module, or has mapped it, or has to do
with nothing but windows of it (`Phase`).
-/

namespace ServiceMigration

namespace Mapping

open Chunk

variable {m : ModuleSpec} {name : String}

/-! ### Mappings of windows, merged -/

theorem knownNames_eq (m : ModuleSpec) : (api m).models.map (·.name) = knownNames m.dtos := by
  rw [api, List.map_map]
  rfl

/-- A mapping that is merged on its own loses the models whose name an earlier one has. -/
theorem merge_api (m : ModuleSpec) :
    ApiSpec.merge [api m] = ⟨firsts ApiModel.name (api m).models, (api m).routes⟩ := by
  have hmodels : (ApiSpec.merge [api m]).models = firsts ApiModel.name (api m).models := by
    rw [ApiSpec.models_merge, List.flatMap_singleton]
  have hroutes : (ApiSpec.merge [api m]).routes = (api m).routes := List.flatMap_singleton _ _
  rw [← hmodels, ← hroutes]

theorem merge_api_eq_iff (m : ModuleSpec) : ApiSpec.merge [api m] = api m ↔
    (knownNames m.dtos).Nodup := by
  rw [← knownNames_eq]
  constructor
  · intro h
    rw [← h]
    exact (ApiSpec.keepsFirst_merge _).nodup
  · intro h
    rw [merge_api, firsts_eq_self h]

/-- What is reached from some endpoints is reached from one of the parts they are made of. -/
theorem reachedIn_flatten_iff {parts : List (List Endpoint)} {dtos : List Dto} {n : Nat} :
    ReachedIn parts.flatten dtos n name ↔ ∃ part ∈ parts, ReachedIn part dtos n name := by
  constructor
  · intro h
    induction h with
    | @mentioned name hname hknown =>
      obtain ⟨t, ht, hname⟩ := List.mem_flatMap.mp hname
      obtain ⟨e, he, ht⟩ := List.mem_flatMap.mp ht
      obtain ⟨part, hpart, he⟩ := List.mem_flatten.mp he
      have hseed : name ∈ seedNames part :=
        List.mem_flatMap.mpr ⟨t, List.mem_flatMap.mpr ⟨e, he, ht⟩, hname⟩
      exact ⟨part, hpart, .mentioned hseed hknown⟩
    | field _ hd hname hknown ih =>
      obtain ⟨part, hpart, hreached⟩ := ih
      exact ⟨part, hpart, .field hreached hd hname hknown⟩
  · rintro ⟨part, hpart, h⟩
    induction h with
    | mentioned hname hknown =>
      have hsubset : part ⊆ parts.flatten := (List.infix_of_mem_flatten hpart).subset
      exact .mentioned (seedNames_subset hsubset hname) hknown
    | field _ hd hname hknown ih => exact .field ih hd hname hknown

/-- An API that the mappings of windows make up, which have the endpoints of the module between
them.  Its models are those of the names that are reached from the endpoints, each of the first
data-transfer type of its name.  Its routes are those of the mapping of the module, if every
data-transfer type has a name. -/
structure MergedFromWindows (m : ModuleSpec) (a : ApiSpec) : Prop where
  merged : ∃ parts : List (List Endpoint), parts.flatten = m.endpoints ∧
    a = ApiSpec.merge (parts.map fun part => api (m.window part))
  models : ∀ x ∈ a.models, ∃ d, firstDeclared x.name m.dtos = some d ∧ x = model d
  nodup : (a.models.map (·.name)).Nodup
  reached : ∀ name, name ∈ a.models.map (·.name) ↔ ∃ n, ReachedIn m.endpoints m.dtos n name
  routes : (∀ d ∈ m.dtos, simpleName d.name ≠ "") → a.routes = (api m).routes

section Windows

variable {parts : List (List Endpoint)}

theorem models_merge_windows (m : ModuleSpec) (parts : List (List Endpoint)) :
    (ApiSpec.merge (parts.map fun part => api (m.window part))).models =
      firsts ApiModel.name (parts.flatMap fun part => (requiredDtos part m.dtos).map model) := by
  rw [ApiSpec.models_merge, List.flatMap_map]
  rfl

theorem firstDeclared_of_mem_windows {x : ApiModel}
    (hx : x ∈ (ApiSpec.merge (parts.map fun part => api (m.window part))).models) :
    ∃ d, firstDeclared x.name m.dtos = some d ∧ x = model d := by
  obtain ⟨answer, hanswer, hfirst⟩ := ApiSpec.exists_part_of_mem_models hx
  obtain ⟨part, -, rfl⟩ := List.mem_map.mp hanswer
  obtain ⟨d, hd, rfl⟩ := List.mem_map.mp (List.mem_of_find?_eq_some hfirst)
  have hneeded : d ∈ requiredDtos part m.dtos := hd
  refine ⟨d, ?_, rfl⟩
  rw [firstDeclared_eq_lookup]
  exact lookup_simpleName hneeded

theorem mem_names_windows_iff (hparts : parts.flatten = m.endpoints) :
    name ∈ (ApiSpec.merge (parts.map fun part => api (m.window part))).models.map (·.name) ↔
      ∃ n, ReachedIn m.endpoints m.dtos n name := by
  have hpart : ∀ part, name ∈ ((requiredDtos part m.dtos).map model).map (·.name) ↔
      ∃ n, ReachedIn part m.dtos n name := by
    intro part
    rw [← mem_names_closure_iff, ← knownNames_requiredDtos, List.map_map]
    rfl
  rw [models_merge_windows, mem_map_firsts, List.map_flatMap, List.mem_flatMap, ← hparts]
  constructor
  · rintro ⟨part, hmem, hname⟩
    obtain ⟨n, hn⟩ := (hpart part).mp hname
    exact ⟨n, reachedIn_flatten_iff.mpr ⟨part, hmem, hn⟩⟩
  · rintro ⟨n, hn⟩
    obtain ⟨part, hmem, hn⟩ := reachedIn_flatten_iff.mp hn
    exact ⟨part, hmem, (hpart part).mpr ⟨n, hn⟩⟩

theorem routes_merge_windows (hparts : parts.flatten = m.endpoints)
    (hnames : ∀ d ∈ m.dtos, simpleName d.name ≠ "") :
    (ApiSpec.merge (parts.map fun part => api (m.window part))).routes = (api m).routes := by
  have hroutes : ∀ part ∈ parts, (api (m.window part)).routes =
      part.map (route (knownNames m.dtos)) := by
    intro part hpart
    have hinfix : part <:+: m.endpoints := hparts ▸ List.infix_of_mem_flatten hpart
    exact List.map_congr_left fun e he =>
      route_window (ModuleSpec.isWindowOf_window hinfix) hnames he
  rw [ApiSpec.routes_merge_map hroutes, List.flatMap_id', hparts]
  rfl

theorem mergedFromWindows (hparts : parts.flatten = m.endpoints) :
    MergedFromWindows m (ApiSpec.merge (parts.map fun part => api (m.window part))) where
  merged := ⟨parts, hparts, rfl⟩
  models _ := firstDeclared_of_mem_windows
  nodup := (ApiSpec.keepsFirst_merge _).nodup
  reached _ := mem_names_windows_iff hparts
  routes := routes_merge_windows hparts

/-- Endpoints that mention no data-transfer type are mapped in windows as if none were declared. -/
theorem MergedFromWindows.of_unmentioned {a : ApiSpec} (h : MergedFromWindows m a)
    (hno : ∀ n ∈ seedNames m.endpoints, n ∉ knownNames m.dtos) :
    a.models = [] ∧ a.routes = m.endpoints.map (route []) := by
  obtain ⟨parts, hparts, rfl⟩ := h.merged
  have hnone : ∀ part ∈ parts, requiredDtos part m.dtos = [] := by
    intro part hpart
    have hsubset : part ⊆ m.endpoints := hparts ▸ (List.infix_of_mem_flatten hpart).subset
    exact requiredDtos_eq_nil fun n hn => hno n (seedNames_subset hsubset hn)
  have hwindow : ∀ part ∈ parts, api (m.window part) = ⟨[], part.map (route [])⟩ := by
    intro part hpart
    simp only [api, ModuleSpec.window, hnone part hpart, List.map_nil, knownNames]
  rw [List.map_congr_left hwindow]
  constructor
  · have hnil : (parts.flatMap fun _ => ([] : List ApiModel)) = [] :=
      List.flatMap_eq_nil_iff.mpr fun _ _ => rfl
    rw [ApiSpec.models_merge, List.flatMap_map, hnil]
    rfl
  · change (parts.map fun part => (⟨[], part.map (route [])⟩ : ApiSpec)).flatMap ApiSpec.routes = _
    rw [List.flatMap_map, ← hparts, List.map_flatten, List.flatMap_def]

end Windows

end Mapping

namespace Run

open Completion Mapping

variable {σ : Type} {b : Backend σ} {signal : Option (Nat → Bool)} {m : ModuleSpec} {P : σ → Prop}
  {barred : ModuleSpec → Prop}

/-! ### Phases of a run -/

/-- Handling an item either splits it or is the end of it. -/
theorem Handling.eq_split_or (h : Handling) (item : WorkItem) (stats : Stats) :
    h = .split ∨ (∃ answer, h.fragment? item.chunk = some answer) ∧ item.next h = [] ∧
      (stats.count h).splits = stats.splits := by
  cases h with
  | split => exact .inl rfl
  | cached | answered | mapped | cancelled => exact .inr ⟨⟨_, rfl⟩, rfl, rfl⟩

/-- What an item that can be split gives rise to is cut out of it. -/
theorem WorkItem.isWindowOf_of_mem_next {item part : WorkItem} (hcan : item.canSplit = true)
    (hpart : part ∈ item.next .split) : part.chunk.IsWindowOf item.chunk := by
  obtain ⟨hsize, hnext⟩ := WorkItem.next_split hcan
  exact (WorkItem.isWindowOf_of_mem_parts hsize (hnext ▸ hpart)).1

/-- How far a run over a module that fits has come. -/
inductive Phase (m : ModuleSpec) (p : Progress σ) : Prop
  | waiting {left : Int} (pending : p.pending = [⟨m, left⟩]) (fragments : p.fragments = [])
      (splits : p.stats.splits = 0)
  | whole {answer : ApiSpec} (pending : p.pending = []) (fragments : p.fragments = [⟨m, answer⟩])
      (splits : p.stats.splits = 0)
  | parted (pending : ∀ item ∈ p.pending, item.chunk.IsWindowOf m)
      (fragments : ∀ fragment ∈ p.fragments, fragment.chunk.IsWindowOf m)
      (splits : 0 < p.stats.splits)

namespace Phase

variable {p q : Progress σ} {item : WorkItem} {rest : List WorkItem}

theorem congr (h : Phase m p) (hpending : q.pending = p.pending)
    (hfragments : q.fragments = p.fragments) (hstats : q.stats = p.stats) : Phase m q := by
  cases h with
  | waiting pending fragments splits =>
    exact .waiting (hpending.trans pending) (hfragments.trans fragments) (hstats ▸ splits)
  | whole pending fragments splits =>
    exact .whole (hpending.trans pending) (hfragments.trans fragments) (hstats ▸ splits)
  | parted pending fragments splits =>
    exact .parted (hpending ▸ pending) (hfragments ▸ fragments) (hstats ▸ splits)

theorem note (h : Phase m p) (hp : p.pending = item :: rest) (s : σ) {handling : Handling}
    (hsplit : handling = .split → item.canSplit = true) :
      Phase m (p.note s item rest handling) := by
  cases h with
  | @waiting left pending fragments splits =>
    obtain ⟨rfl, rfl⟩ := List.cons.inj (hp.symm.trans pending)
    rcases handling.eq_split_or ⟨m, left⟩ p.stats with rfl | ⟨⟨answer, hanswer⟩, hnext, hcount⟩
    · refine .parted ?_ ?_ (Nat.succ_pos _)
      · intro part hpart
        rw [Progress.note, List.append_nil] at hpart
        exact WorkItem.isWindowOf_of_mem_next (hsplit rfl) hpart
      · simp [Progress.note, fragments, Handling.fragment?]
    · have hnone : (p.note s ⟨m, left⟩ [] handling).pending = [] := by simp [Progress.note, hnext]
      have hone : (p.note s ⟨m, left⟩ [] handling).fragments = [⟨m, answer⟩] := by
        simp [Progress.note, fragments, hanswer]
      exact .whole hnone hone (hcount.trans splits)
  | whole pending => simp [pending] at hp
  | parted pending fragments splits =>
    have hitem : item.chunk.IsWindowOf m := pending item (by simp [hp])
    have hrest : ∀ old ∈ rest, old.chunk.IsWindowOf m := fun old hold =>
      pending old (by simp [hp, hold])
    rcases handling.eq_split_or item p.stats with rfl | ⟨⟨answer, hanswer⟩, hnext, hcount⟩
    · refine .parted ?_ ?_ (Nat.succ_pos _)
      · intro part hpart
        rcases List.mem_append.mp hpart with hpart | hpart
        · exact (WorkItem.isWindowOf_of_mem_next (hsplit rfl) hpart).trans hitem
        · exact hrest part hpart
      · simpa [Progress.note, Handling.fragment?] using fragments
    · refine .parted ?_ ?_ (hcount ▸ splits)
      · simpa [Progress.note, hnext] using hrest
      · intro fragment hfragment
        simp only [Progress.note, hanswer, Option.map_some, Option.toList_some, List.mem_append,
          List.mem_singleton] at hfragment
        rcases hfragment with hold | rfl
        · exact fragments fragment hold
        · exact hitem

theorem poll (h : Phase m p) : Phase m (p.poll b signal) := h.congr (by simp) (by simp) (by simp)

theorem step {r : Except Failure Unit × Progress σ} (h : Phase m p) (hp : p.pending = item :: rest)
    (hs : Stepped b p item rest r) : Phase m r.2 := by
  cases hs with
  | cancelled => exact h.note hp _ (by simp)
  | handled _ hattempt => exact h.note hp _ hattempt.canSplit
  | failed => exact h.congr rfl rfl rfl

end Phase

theorem pending_startOf {plan : Plan} (hfits : (m.endpoints.length : Int) ≤ plan.size) (s : σ) :
    (startOf plan m s).pending = [⟨m, plan.budget⟩] := by
  rw [startOf, ModuleSpec.chunks_of_length_le (by omega), List.map_singleton]

theorem Finished.phase {p : Progress σ} {r : Except Failure Unit × Progress σ}
    (h : Finished b signal p r) (hp : Phase m p) : Phase m r.2 :=
  h.invariant hp (fun _ => Phase.poll) fun _ _ _ _ hpending hp hs => hp.step hpending hs

/-! ### The API of a run -/

/-- Windows that are mapped have the mappings of their endpoints. -/
theorem answers_eq {fragments : List Fragment}
    (hwindows : ∀ fragment ∈ fragments, fragment.chunk.IsWindowOf m)
    (hmapped : ∀ fragment ∈ fragments, fragment.answer = api fragment.chunk) :
    fragments.map Fragment.answer =
      (fragments.map fun fragment => fragment.chunk.endpoints).map fun part =>
        api (m.window part) := by
  rw [List.map_map]
  apply List.map_congr_left
  intro fragment hfragment
  rw [hmapped fragment hfragment, (hwindows fragment hfragment).eq_window]
  rfl

/-- What a run over a silent backend returns is the mapping of a module that fits, or it is merged
from the mappings of windows. -/
theorem result_of_fitting {plan : Plan} {s : σ} {a : ApiSpec} (hb : b.Silent P barred) (hs : P s)
    (hsize : 1 ≤ plan.size) (hfits : (m.endpoints.length : Int) ≤ plan.size)
    (hok : (transform b plan m s).result = .ok a) :
    ((transform b plan m s).progress.stats.splits = 0 → a = ApiSpec.merge [api m]) ∧
      (0 < (transform b plan m s).progress.stats.splits → MergedFromWindows m a) := by
  rcases hb.transform_cases (m := m) hs hsize with ⟨q, hq, ho, hmapped⟩ | ⟨e, _, _, herror, -⟩
  · have hcovers : Covers m (q.conclude b m) :=
      (hq.tiles (tiles_startOf hsize m s)).covers hq.pending_eq_nil
    have hphase : Phase m q := hq.phase (.waiting (pending_startOf hfits s) rfl rfl)
    have hsplits : (q.conclude b m).progress.stats.splits = q.stats.splits := rfl
    rw [ho] at hok
    obtain rfl : ApiSpec.merge (q.fragments.map Fragment.answer) = a := Except.ok.inj hok
    rw [ho, hsplits]
    cases hphase with
    | waiting pending => simp [hq.pending_eq_nil] at pending
    | @whole answer _ fragments splits =>
      have hanswer : answer = api m := hmapped.fragments ⟨m, answer⟩ (by simp [fragments])
      refine ⟨fun _ => ?_, fun h => absurd splits h.ne'⟩
      rw [fragments, hanswer, List.map_singleton]
    | parted _ fragments splits =>
      refine ⟨fun h => absurd h splits.ne', fun _ => ?_⟩
      rw [answers_eq fragments hmapped.fragments]
      apply mergedFromWindows
      rw [← List.flatMap_def]
      exact hcovers.endpoints
  · simp [herror] at hok

/-! ### Runs that split and runs that do not -/

theorem Finished.splits_le {p : Progress σ} {r : Except Failure Unit × Progress σ}
    (h : Finished b signal p r) :
    p.stats.splits ≤ r.2.stats.splits := by
  refine h.invariant (I := fun q => p.stats.splits ≤ q.stats.splits) (Nat.le_refl _) ?_ ?_
  · intro q hq
    simpa using hq
  · intro q item rest r _ hq hs
    have hnote : ∀ handling : Handling, p.stats.splits ≤ (q.stats.count handling).splits := by
      intro handling
      rcases handling.eq_split_or item q.stats with rfl | ⟨-, -, hcount⟩
      · exact Nat.le_succ_of_le hq
      · exact hcount ▸ hq
    cases hs with
    | cancelled | handled => exact hnote _
    | failed => exact hq

/-- A model that finds no chunk too long has none split. -/
theorem splits_eq_zero {plan : Plan} (hsize : 1 ≤ plan.size) (s : σ)
    (hshort : ∀ chunk s explanation,
      (b.generate chunk s).1 ≠ .ok (.failed .inputSizeExceeded explanation)) :
    (transform b plan m s).progress.stats.splits = 0 := by
  have hkeep : ∀ {r}, Finished b plan.signal (startOf plan m s) r → r.2.stats.splits = 0 := by
    intro r hr
    refine hr.invariant (I := fun q => q.stats.splits = 0) rfl ?_ ?_
    · intro q hq
      simpa using hq
    · intro q item rest r _ hq hs
      cases hs with
      | cancelled | failed => exact hq
      | @handled handling _ _ hattempt =>
        rcases handling.eq_split_or item q.stats with rfl | ⟨-, -, hcount⟩
        · cases hattempt with
          | split _ hgenerate => exact absurd (congrArg Prod.fst hgenerate) (hshort _ _ _)
        · exact hcount.trans hq
  rcases transform_cases b m s hsize with ⟨q, hq, ho⟩ | ⟨e, q, hq, ho⟩
  · rw [ho]
    exact hkeep hq
  · rw [ho]
    exact hkeep hq

/-- A model that finds every chunk too long has a module split that may be split. -/
theorem splits_pos {plan : Plan} {s : σ} (hb : b.Silent P barred) (hs : P s) (hsize : 1 ≤ plan.size)
    (hfits : (m.endpoints.length : Int) ≤ plan.size) (hsignal : plan.signal = none)
    (hfree : ¬ barred m) (hcan : (⟨m, plan.budget⟩ : WorkItem).canSplit = true)
    (hlong : ∀ chunk s kind explanation, (b.generate chunk s).1 = .ok (.failed kind explanation) →
      kind = .inputSizeExceeded) :
    0 < (transform b plan m s).progress.stats.splits := by
  have hattempt : ∀ {r}, Attempted b ⟨m, plan.budget⟩ s r → r.1 = .ok .split := by
    intro r hr
    rcases (hr.of_silent hb hs hfree).2 with hsplit | ⟨kind, hkind⟩
    · exact hsplit
    · cases hr with
      | mapped _ hgenerate hkeep =>
        have hno := hkeep (hlong _ _ _ _ (congrArg Prod.fst hgenerate))
        exact absurd hcan (Bool.eq_false_iff.mp hno)
      | lookupFailed | generateFailed | storeFailed | cached | answered | split => simp at hkind
  have hpending : (startOf plan m s).pending = [⟨m, plan.budget⟩] := pending_startOf hfits s
  have hpos : ∀ {r}, Finished b plan.signal (startOf plan m s) r → 0 < r.2.stats.splits := by
    intro r hr
    rw [hsignal] at hr
    cases hr with
    | done hnil => simp [hpending] at hnil
    | failed hfirst hstep =>
      obtain ⟨rfl, rfl⟩ := List.cons.inj (hpending.symm.trans hfirst)
      cases hstep with
      | failed _ ha => exact absurd (hattempt ha) (by simp)
    | next hfirst hstep hrest =>
      obtain ⟨rfl, rfl⟩ := List.cons.inj (hpending.symm.trans hfirst)
      refine Nat.lt_of_lt_of_le ?_ hrest.splits_le
      cases hstep with
      | cancelled hcancelled => simp [Progress.poll, startOf] at hcancelled
      | handled _ ha =>
        obtain rfl := Except.ok.inj (hattempt ha)
        exact Nat.succ_pos _
  rcases transform_cases b m s hsize with ⟨q, hq, ho⟩ | ⟨e, q, hq, ho⟩
  · rw [ho]
    exact hpos hq
  · rw [ho]
    exact hpos hq

/-- What a run without answers returns for a module that fits: if it splits nothing, the mapping of
the module up to models whose name an earlier one has, and the mapping itself if there are none; if
it splits, an API that is merged from the mappings of windows.  It returns if the cache is not used,
or if the numbers of the module can be written. -/
theorem unanswered_run_of_fitting {κ : Type} (k : Cache) (g : Responder κ) {plan : Plan}
    (m : ModuleSpec) (s : Session κ) (hsize : 1 ≤ plan.size)
    (hfits : (m.endpoints.length : Int) ≤ plan.size) (hempty : k.HoldsNothing s.workspace)
    (hanswers : ∀ chunk s answer, (g chunk s).1 ≠ .success answer) (hleaves : g.LeavesEmpty k) :
    (∀ a, (transform (k.backend g) plan m s).result = .ok a →
      ((transform (k.backend g) plan m s).progress.stats.splits = 0 →
        a = ⟨firsts ApiModel.name (api m).models, (api m).routes⟩ ∧
          (a = api m ↔ (knownNames m.dtos).Nodup)) ∧
      (0 < (transform (k.backend g) plan m s).progress.stats.splits → MergedFromWindows m a)) ∧
    ((k.IsUsed → m.toValue.hasLongNumber = false) →
      ∃ a, (transform (k.backend g) plan m s).result = .ok a) := by
  have hsilent := silent_backend hanswers hleaves
  constructor
  · intro a hok
    obtain ⟨hwhole, hparted⟩ := result_of_fitting hsilent hempty hsize hfits hok
    refine ⟨fun hsplits => ?_, hparted⟩
    rw [hwhole hsplits, merge_api_eq_iff, merge_api]
    exact ⟨rfl, Iff.rfl⟩
  · intro hm
    exact hsilent.succeeds hempty hsize fun _ hchunk => hchunk.not_lacksKey hm

theorem unanswered_run_of_itemModule :
    (transform (storedCache.backend refusing) { size := 4 } itemModule ⟨bareWorkspace, ()⟩).result =
      .ok (api itemModule) := by
  have hsize : 1 ≤ ({ size := 4 } : Plan).size := by decide
  have hfits : (itemModule.endpoints.length : Int) ≤ ({ size := 4 } : Plan).size := by decide
  have hanswers : ∀ chunk s answer, (refusing chunk s).1 ≠ .success answer := by simp [refusing]
  have hleaves : refusing.LeavesEmpty storedCache := fun _ _ h => h
  have hnames : (knownNames itemModule.dtos).Nodup := by decide +kernel
  have hsplits : (transform (storedCache.backend refusing) { size := 4 } itemModule
      ⟨bareWorkspace, ()⟩).progress.stats.splits = 0 :=
    splits_eq_zero hsize _ (by simp [Cache.backend, refusing])
  obtain ⟨hagrees, hreturns⟩ := unanswered_run_of_fitting storedCache refusing itemModule
    ⟨bareWorkspace, ()⟩ hsize hfits holdsNothing_bareWorkspace hanswers hleaves
  obtain ⟨a, hresult⟩ := hreturns fun _ => by decide
  rw [hresult, ((hagrees a hresult).1 hsplits).2.mpr hnames]

/-! ### Runs that differ from the mapping -/

/-- Two data-transfer types of one simple name. -/
def namesakeModule : ModuleSpec where
  projectName := "shop"
  moduleName := "stock"
  endpoints := [itemEndpoint "list"]
  dtos := [{ name := "shop.Item" }, { name := "stock.Item" }]

/-- Two endpoints, and data-transfer types that the scan of what they return does not find. -/
def strayModule : ModuleSpec where
  projectName := "shop"
  moduleName := "stock"
  endpoints := ["list", "find"].map fun method =>
    { itemEndpoint method with responseBody := some { name := "<T>" } }
  dtos := [{ name := "Unused" }, { name := "<T>" }]

/-- A generator whose model finds every chunk too long. -/
def choking : Responder Unit := fun _ s => (.failed .inputSizeExceeded "too many tokens", s)

theorem holdsNothing_disabled (w : Workspace) : Cache.disabled.HoldsNothing w := by
  intro henabled
  exact absurd henabled (by decide)

theorem not_lacksKey_disabled (c : ModuleSpec) : ¬ Cache.disabled.LacksKey c := by
  rintro ⟨⟨henabled, -⟩, -⟩
  cases henabled

/-- A run without answers differs from the mapping where names clash; and where it splits the
module, in types that no endpoint needs and in types without a name. -/
theorem namesakes_and_strays :
    (transform (Cache.disabled.backend refusing) { size := 1 } namesakeModule ⟨{}, ()⟩).result ≠
      .ok (api namesakeModule) ∧
    ∃ a, (transform (Cache.disabled.backend choking) { size := 2 } strayModule ⟨{}, ()⟩).result =
      .ok a ∧
      a.models.map (·.name) ≠ (api strayModule).models.map (·.name) ∧
      a.routes.map (·.responseModel) ≠ (api strayModule).routes.map (·.responseModel) := by
  constructor
  · intro hsame
    have hsize : 1 ≤ ({ size := 1 } : Plan).size := by decide
    have hfits : (namesakeModule.endpoints.length : Int) ≤ ({ size := 1 } : Plan).size := by decide
    have hsilent := @silent_backend _ Cache.disabled refusing (by simp [refusing]) fun _ _ h => h
    have hsplits : (transform (Cache.disabled.backend refusing) { size := 1 } namesakeModule
        ⟨{}, ()⟩).progress.stats.splits = 0 :=
      splits_eq_zero hsize _ (by simp [Cache.backend, refusing])
    obtain ⟨hwhole, -⟩ :=
      result_of_fitting hsilent (holdsNothing_disabled _) hsize hfits hsame
    have hmerged : ApiSpec.merge [api namesakeModule] = api namesakeModule := (hwhole hsplits).symm
    exact absurd ((merge_api_eq_iff namesakeModule).mp hmerged) (by decide +kernel)
  · have hsize : 1 ≤ ({ size := 2 } : Plan).size := by decide
    have hfits : (strayModule.endpoints.length : Int) ≤ ({ size := 2 } : Plan).size := by decide
    have hsilent := @silent_backend _ Cache.disabled choking (by simp [choking]) fun _ _ h => h
    have hempty := holdsNothing_disabled {}
    have hsplits : 0 < (transform (Cache.disabled.backend choking) { size := 2 } strayModule
        ⟨{}, ()⟩).progress.stats.splits :=
      splits_pos hsilent hempty hsize hfits rfl (not_lacksKey_disabled _) (by decide)
        (by simp [Cache.backend, choking])
    obtain ⟨a, hresult⟩ :=
      hsilent.succeeds hempty hsize fun _ _ => not_lacksKey_disabled _
    obtain ⟨-, hparted⟩ := result_of_fitting hsilent hempty hsize hfits hresult
    obtain ⟨hmodels, hroutes⟩ := (hparted hsplits).of_unmentioned (by decide +kernel)
    refine ⟨a, hresult, ?_, ?_⟩
    · rw [hmodels]
      decide +kernel
    · rw [hroutes]
      decide +kernel

end Run

end ServiceMigration
