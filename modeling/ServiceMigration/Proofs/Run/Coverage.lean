import ServiceMigration.Proofs.Chunk.Window
import ServiceMigration.Proofs.Run.Session
/-!
# What a run covers

The fragments of a run come in the order of the endpoints, and every endpoint is in one of them.
The invariant is that what the fragments cover and what is waiting are together the endpoints of the
module (`Progress.Tiles`): an item that is handled gives a fragment of its own, or its parts take
its place.
-/

namespace ServiceMigration.Run

open Completion

variable {σ : Type} {b : Backend σ} {signal : Option (Nat → Bool)} {m : ModuleSpec}

def waitingEndpoints (items : List WorkItem) : List Endpoint := items.flatMap (·.chunk.endpoints)

def coveredEndpoints (fragments : List Fragment) : List Endpoint :=
  fragments.flatMap (·.chunk.endpoints)

/-- The fragment that an item gave, if it gave one. -/
def fragmentOf (entry : WorkItem × Handling) : Option Fragment :=
  (entry.2.fragment? entry.1.chunk).map (Fragment.mk entry.1.chunk)

@[simp] theorem waitingEndpoints_nil : waitingEndpoints [] = [] := rfl

@[simp] theorem waitingEndpoints_cons (item : WorkItem) (rest : List WorkItem) :
    waitingEndpoints (item :: rest) = item.chunk.endpoints ++ waitingEndpoints rest := rfl

@[simp] theorem waitingEndpoints_append (xs ys : List WorkItem) :
    waitingEndpoints (xs ++ ys) = waitingEndpoints xs ++ waitingEndpoints ys := List.flatMap_append

theorem waitingEndpoints_map (chunks : List ModuleSpec) (left : Int) :
    waitingEndpoints (chunks.map fun chunk => ⟨chunk, left⟩) = chunks.flatMap (·.endpoints) := by
  rw [waitingEndpoints, List.flatMap_map]

@[simp] theorem coveredEndpoints_append (xs ys : List Fragment) :
    coveredEndpoints (xs ++ ys) = coveredEndpoints xs ++ coveredEndpoints ys := List.flatMap_append

theorem waitingEndpoints_parts (item : WorkItem) :
    waitingEndpoints item.parts = item.chunk.endpoints := by
  rw [WorkItem.parts, waitingEndpoints_map, ModuleSpec.flatMap_endpoints_chunks item.partSize_pos]

/-- A handled item is covered by its fragment, or what takes its place has its endpoints. -/
theorem coveredEndpoints_fragmentOf (item : WorkItem) (h : Handling)
    (hsplit : h = .split → item.canSplit = true) :
    coveredEndpoints (fragmentOf (item, h)).toList ++ waitingEndpoints (item.next h) =
      item.chunk.endpoints := by
  cases h with
  | split =>
    rw [(WorkItem.next_split (hsplit rfl)).2, waitingEndpoints_parts]
    rfl
  | cached | answered | mapped | cancelled =>
    simp [fragmentOf, Handling.fragment?, coveredEndpoints, WorkItem.next]

/-- The fragments are those of the items handled so far, and the endpoints that they cover and those
that are waiting are together the endpoints of the module, in order. -/
structure Progress.Tiles (m : ModuleSpec) (p : Progress σ) : Prop where
  endpoints : coveredEndpoints p.fragments ++ waitingEndpoints p.pending = m.endpoints
  fragments : p.fragments = p.handled.filterMap fragmentOf

namespace Progress.Tiles

variable {p : Progress σ} {item : WorkItem} {rest : List WorkItem}

theorem note (h : p.Tiles m) (hp : p.pending = item :: rest) (s : σ) {handling : Handling}
    (hsplit : handling = .split → item.canSplit = true) :
      (p.note s item rest handling).Tiles m where
  endpoints := by
    calc coveredEndpoints (p.fragments ++ (fragmentOf (item, handling)).toList) ++
          waitingEndpoints (item.next handling ++ rest)
        = coveredEndpoints p.fragments ++
            ((coveredEndpoints (fragmentOf (item, handling)).toList ++
              waitingEndpoints (item.next handling)) ++ waitingEndpoints rest) := by
          simp only [coveredEndpoints_append, waitingEndpoints_append, List.append_assoc]
      _ = coveredEndpoints p.fragments ++ waitingEndpoints p.pending := by
          rw [coveredEndpoints_fragmentOf item handling hsplit, hp, waitingEndpoints_cons]
      _ = m.endpoints := h.endpoints
  fragments := by
    calc p.fragments ++ (fragmentOf (item, handling)).toList
        = p.handled.filterMap fragmentOf ++ [(item, handling)].filterMap fragmentOf := by
          rw [h.fragments, List.filterMap_cons]
          cases fragmentOf (item, handling) <;> rfl
      _ = (p.handled ++ [(item, handling)]).filterMap fragmentOf := List.filterMap_append.symm

theorem poll (h : p.Tiles m) : (p.poll b signal).Tiles m :=
  ⟨by simpa using h.endpoints, by simpa using h.fragments⟩

theorem step {r : Except Failure Unit × Progress σ} (h : p.Tiles m) (hp : p.pending = item :: rest)
    (hs : Stepped b p item rest r) : r.2.Tiles m := by
  cases hs with
  | cancelled => exact h.note hp _ (by simp)
  | handled _ hattempt => exact h.note hp _ hattempt.canSplit
  | failed => exact ⟨h.endpoints, h.fragments⟩

end Progress.Tiles

theorem tiles_startOf {plan : Plan} (hsize : 1 ≤ plan.size) (m : ModuleSpec) (s : σ) :
    (startOf plan m s).Tiles m where
  endpoints := by
    have hpos : 0 < plan.size.toNat := by omega
    simp [startOf, waitingEndpoints_map, ModuleSpec.flatMap_endpoints_chunks hpos, coveredEndpoints]
  fragments := rfl

theorem Finished.tiles {p : Progress σ} {r : Except Failure Unit × Progress σ}
    (h : Finished b signal p r) (hp : p.Tiles m) : r.2.Tiles m :=
  h.invariant hp (fun _ => Progress.Tiles.poll) fun _ _ _ _ hpending hp hs => hp.step hpending hs

/-! ### Covering a module -/

/-- A run over a module covers it: the chunks of its fragments, which are those of the items
handled, have the endpoints of the module between them, in order, and it returns an API whose routes
are those of the fragments. -/
structure Covers (m : ModuleSpec) (o : Outcome σ) : Prop where
  endpoints : coveredEndpoints o.progress.fragments = m.endpoints
  fragments : o.progress.fragments = o.progress.handled.filterMap fragmentOf
  answer : ∃ api, o.result = .ok api ∧
    api.routes = o.progress.fragments.flatMap fun fragment => fragment.answer.routes

theorem Progress.Tiles.covers {p : Progress σ} (h : p.Tiles m) (hp : p.pending = []) :
    Covers m (p.conclude b m) where
  endpoints := by
    have hendpoints := h.endpoints
    rwa [hp, waitingEndpoints_nil, List.append_nil] at hendpoints
  fragments := h.fragments
  answer := ⟨_, rfl, List.flatMap_map _ _ _⟩

/-- A run covers its module unless it comes to a chunk that it does not get over: one whose entry in
the cache cannot be read, or that has no key, or whose answer cannot be written.  It ends there, and
has covered the endpoints before those of that chunk. -/
theorem covers_iff_not_stopsAt (c : Cache) (g : Responder κ) {plan : Plan} (m : ModuleSpec)
    (s : Session κ) (hsize : 1 ≤ plan.size) :
    (transform (c.backend g) plan m s).progress.Tiles m ∧
    (Covers m (transform (c.backend g) plan m s) ↔
      ∀ item ∈ (transform (c.backend g) plan m s).progress.pending.head?,
        ¬ StopsAt c g item.chunk (transform (c.backend g) plan m s).progress.state) := by
  have hstart := tiles_startOf hsize m s
  rcases transform_cases (c.backend g) m s hsize with ⟨q, hq, ho⟩ | ⟨e, q, hq, ho⟩
  · have htiles := hq.tiles hstart
    have hpending := hq.pending_eq_nil
    rw [ho]
    refine ⟨⟨htiles.endpoints, htiles.fragments⟩, fun _ item hitem => ?_, fun _ => ?_⟩
    · have hnone : (q.conclude (c.backend g) m).progress.pending = [] := hpending
      simp [hnone] at hitem
    · exact htiles.covers hpending
  · obtain ⟨p, item, rest, -, hpending, hp, hattempt⟩ :=
      hq.exists_attempted (I := fun _ => True) trivial (fun _ _ => trivial) fun _ _ _ _ _ _ _ =>
        trivial
    have hfirst : q.pending = item :: rest := by rw [hp, hpending]
    rw [ho]
    refine ⟨hq.tiles hstart, fun hcovers => ?_, fun hgoes => ?_⟩
    · obtain ⟨api, hapi, -⟩ := hcovers.answer
      simp at hapi
    · exact absurd hattempt.stopsAt (hgoes item (by simp [hfirst]))

def pingModule : ModuleSpec where
  projectName := "shop"
  moduleName := "health"
  endpoints := [{
    id := "Health#ping::GET"
    controllerClass := "Health"
    methodName := "ping"
    httpMethod := "GET"
    path := "/ping" }]

/-- A generator that never has an answer and changes nothing. -/
def refusing : Responder Unit := fun _ s => (.failed .transport "no completion service", s)

theorem covers_pingModule :
    (1 : Int) ≤ ({ size := 1 } : Plan).size ∧
      Covers pingModule (transform (Cache.disabled.backend refusing) { size := 1 } pingModule ⟨{},
        ()⟩) :=
  ⟨by decide, (covers_iff_not_stopsAt Cache.disabled refusing pingModule ⟨{}, ()⟩ (by decide)).2.mpr
    fun _ _ hstops => by
      cases hstops with
      | unreadable h => exact absurd h.1 (by decide)
      | lacksKey h => exact absurd h.1.1 (by decide)
      | unwritten hused => exact absurd hused.1 (by decide)⟩

/-- A run that cannot look up its first chunk returns nothing. -/
theorem not_ok_of_lookup {c : Cache} {g : Responder κ} {plan : Plan} {s : Session κ}
    {chunk : ModuleSpec} {rest : List ModuleSpec} (hsize : 1 ≤ plan.size)
    (hsignal : plan.signal = none) (hchunks : m.chunks plan.size.toNat = chunk :: rest)
    (hu : c.LacksKey chunk ∨ c.Unreadable chunk s.workspace) :
    ¬ ∃ api, (transform (c.backend g) plan m s).result = .ok api := by
  rcases transform_cases (c.backend g) m s hsize with ⟨q, hq, ho⟩ | ⟨e, q, hq, ho⟩
  · have hstart : (startOf plan m s).pending =
        ⟨chunk, plan.budget⟩ :: rest.map fun chunk => ⟨chunk, plan.budget⟩ := by
      simp [startOf, hchunks]
    cases hq with
    | done hpending => simp [hpending] at hstart
    | next hpending hstep _ =>
      obtain ⟨rfl, rfl⟩ := List.cons.inj (hpending.symm.trans hstart)
      rw [hsignal] at hstep
      cases hstep with
      | cancelled hcancelled => simp [Progress.poll, startOf] at hcancelled
      | handled _ hattempt => exact absurd hattempt (Attempted.not_ok_of_lookup hu)
  · rintro ⟨api, hapi⟩
    simp [ho] at hapi

def storedCache : Cache := { directory := some (.ofString "cache"), enabled := true }

/-- A workspace where the entry under a key is a byte that no text has. -/
def spoiledWorkspace (key : String) : Workspace where
  tree.entries := [(["cache"], .directory), (["cache", Cache.entryName key], .file ⟨#[0xFF]⟩)]

theorem unreadable_spoiledWorkspace {key : String} (hkey : m.contentKey = some key) :
    storedCache.Unreadable m (spoiledWorkspace key) := by
  have hentry : storedCache.entryAt? m (spoiledWorkspace key) = some (.file ⟨#[0xFF]⟩) := by
    rw [Cache.entryAt?_eq_get? ["cache"] rfl hkey rfl rfl]
    simp [spoiledWorkspace, FileTree.get?, List.lookup_cons]
  exact ⟨rfl, ⟨#[0xFF]⟩, hentry, .inl (by decide)⟩

def pingKey : String := pingModule.contentKey.getD ""

theorem contentKey_pingModule : pingModule.contentKey = some pingKey :=
  ModuleSpec.contentKey_of_written (by decide)

theorem pingModule_not_covered :
    ¬ Covers pingModule
      (transform (storedCache.backend refusing) { size := 1 } pingModule
        ⟨spoiledWorkspace pingKey, ()⟩) := by
  intro hcovers
  obtain ⟨api, hapi, -⟩ := hcovers.answer
  have hspoiled := unreadable_spoiledWorkspace contentKey_pingModule
  exact not_ok_of_lookup (by decide) rfl rfl (.inr hspoiled) ⟨api, hapi⟩

end ServiceMigration.Run
