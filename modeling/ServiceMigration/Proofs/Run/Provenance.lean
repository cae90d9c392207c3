import ServiceMigration.Proofs.Chunk.Window
import ServiceMigration.Proofs.Run.Step
/-!
# Where the chunks of a run come from

Every chunk that a run takes up was cut out of the module of the run, be it in one cut or in
several.  Since a cut out of a cut is a cut out of the whole, what is in a chunk depends on its
endpoints alone: a chunk that was split off late is the one that a smaller size would have given at
once, and goes by the same key.
-/

namespace ServiceMigration.Run

open Completion

variable {σ τ : Type} {b : Backend σ} {signal : Option (Nat → Bool)} {m c : ModuleSpec} {size : Int}

/-- What a run over a module may be about: the module itself if it is small enough, or else a part
of it. -/
def IsChunkOf (size : Int) (m c : ModuleSpec) : Prop :=
  (c = m ∧ (m.endpoints.length : Int) ≤ size) ∨
    (c.IsWindowOf m ∧ c.endpoints.length < m.endpoints.length)

/-- Chunks with the same endpoints are the same, whatever the sizes. -/
theorem IsChunkOf.ext {size' : Int} {c' : ModuleSpec} (h : IsChunkOf size m c)
    (h' : IsChunkOf size' m c') (he : c.endpoints = c'.endpoints) : c = c' := by
  rcases h with ⟨rfl, -⟩ | ⟨hwindow, hlt⟩ <;> rcases h' with ⟨rfl, -⟩ | ⟨hwindow', hlt'⟩
  · rfl
  · exact absurd hlt' (by simp [he])
  · exact absurd hlt (by simp [he])
  · exact hwindow.ext hwindow' he

/-- The parts of an item are cut out of it. -/
theorem WorkItem.isWindowOf_of_mem_parts {item part : WorkItem} (hsize : 1 < item.size)
    (hpart : part ∈ item.parts) :
    part.chunk.IsWindowOf item.chunk ∧
    part.chunk.endpoints.length < item.chunk.endpoints.length := by
  have hlt : item.partSize < item.chunk.endpoints.length := by
    simp only [WorkItem.partSize, WorkItem.size] at hsize ⊢
    omega
  obtain ⟨chunk, hchunk, rfl⟩ := List.mem_map.mp hpart
  rcases ModuleSpec.mem_chunks item.partSize_pos hchunk with ⟨-, hfits⟩ | ⟨hwindow, hlength, -⟩
  · omega
  · exact ⟨hwindow, Nat.lt_of_le_of_lt hlength hlt⟩

/-- The parts of a chunk are windows of the module. -/
theorem IsChunkOf.part {item part : WorkItem} (h : IsChunkOf size m item.chunk)
    (hsize : 1 < item.size) (hpart : part ∈ item.parts) : IsChunkOf size m part.chunk := by
  obtain ⟨hwindow, hlt⟩ := WorkItem.isWindowOf_of_mem_parts hsize hpart
  rcases h with ⟨hitem, -⟩ | ⟨hitem, hshort⟩
  · rw [hitem] at hwindow hlt
    exact .inr ⟨hwindow, hlt⟩
  · exact .inr ⟨hwindow.trans hitem, Nat.lt_trans hlt hshort⟩

theorem IsChunkOf.next {item part : WorkItem} {h : Handling} (hitem : IsChunkOf size m item.chunk)
    (hpart : part ∈ item.next h) : IsChunkOf size m part.chunk := by
  cases h with
  | split =>
    rw [WorkItem.next] at hpart
    split at hpart
    · next hsize => exact hitem.part hsize hpart
    · simp at hpart
  | cached | answered | mapped | cancelled => simp [WorkItem.next] at hpart

/-- The items that a run has handled or is still to handle, one that it failed on among these. -/
def Progress.items (p : Progress σ) : List WorkItem := p.handled.map (·.1) ++ p.pending

theorem Progress.mem_items_note {p : Progress σ} {item old : WorkItem} {rest : List WorkItem}
    (hp : p.pending = item :: rest) (s : σ) (h : Handling) (hold : old ∈ p.items) :
    old ∈ (p.note s item rest h).items := by
  simp only [items, note, hp, List.map_append, List.map_cons, List.map_nil, List.mem_append,
    List.mem_cons, List.not_mem_nil, or_false] at hold ⊢
  rcases hold with hhandled | rfl | hrest
  · exact .inl (.inl hhandled)
  · exact .inl (.inr rfl)
  · exact .inr (.inr hrest)

/-- All items are about chunks of the module, and so are the fragments. -/
structure Progress.Traced (size : Int) (m : ModuleSpec) (p : Progress σ) : Prop where
  items : ∀ item ∈ p.items, IsChunkOf size m item.chunk
  fragments : ∀ fragment ∈ p.fragments, ∃ item ∈ p.items, fragment.chunk = item.chunk

namespace Progress.Traced

variable {p : Progress σ} {item : WorkItem} {rest : List WorkItem}

theorem note (h : p.Traced size m) (hp : p.pending = item :: rest) (s : σ) (handling : Handling) :
    (p.note s item rest handling).Traced size m where
  items := by
    have hitem : IsChunkOf size m item.chunk := h.items item (by simp [Progress.items, hp])
    intro part hpart
    simp only [Progress.items, Progress.note, List.map_append, List.map_cons, List.map_nil,
      List.mem_append, List.mem_singleton] at hpart
    rcases hpart with (hhandled | rfl) | hnext | hrest
    · exact h.items part (List.mem_append_left _ hhandled)
    · exact hitem
    · exact hitem.next hnext
    · exact h.items part (by simp [Progress.items, hp, hrest])
  fragments := by
    intro fragment hfragment
    rcases List.mem_append.mp hfragment with hold | hnew
    · obtain ⟨old, hmem, hchunk⟩ := h.fragments fragment hold
      exact ⟨old, mem_items_note hp s handling hmem, hchunk⟩
    · obtain ⟨answer, -, rfl⟩ := Option.map_eq_some_iff.mp (Option.mem_toList.mp hnew)
      exact ⟨item, by simp [Progress.items, Progress.note], rfl⟩

theorem poll (h : p.Traced size m) : (p.poll b signal).Traced size m := by
  refine ⟨fun item hitem => h.items item ?_, fun fragment hfragment => ?_⟩
  · simpa [Progress.items] using hitem
  · simpa [Progress.items] using h.fragments fragment (by simpa using hfragment)

theorem step {r : Except Failure Unit × Progress σ} (h : p.Traced size m)
    (hp : p.pending = item :: rest) (hs : Stepped b p item rest r) : r.2.Traced size m := by
  cases hs with
  | cancelled | handled => exact h.note hp _ _
  | failed => exact ⟨h.items, h.fragments⟩

end Progress.Traced

theorem traced_startOf {plan : Plan} (hsize : 1 ≤ plan.size) (m : ModuleSpec) (s : σ) :
    (startOf plan m s).Traced plan.size m where
  items := by
    intro item hitem
    obtain ⟨chunk, hchunk, rfl⟩ := List.mem_map.mp (by simpa [Progress.items, startOf] using hitem)
    rcases ModuleSpec.mem_chunks (by omega) hchunk with ⟨hm, hfits⟩ | ⟨hwindow, hlength, hlt⟩
    · exact .inl ⟨hm, by omega⟩
    · exact .inr ⟨hwindow, Nat.lt_of_le_of_lt hlength hlt⟩
  fragments := by simp [startOf]

theorem Finished.traced {p : Progress σ} {r : Except Failure Unit × Progress σ}
    (h : Finished b signal p r) (hp : p.Traced size m) : r.2.Traced size m :=
  h.invariant hp (fun _ => Progress.Traced.poll) fun _ _ _ _ hpending hp hs => hp.step hpending hs

theorem traced_transform (b : Backend σ) {plan : Plan} (hsize : 1 ≤ plan.size) (m : ModuleSpec)
    (s : σ) : (transform b plan m s).progress.Traced plan.size m := by
  have hstart := traced_startOf hsize m s
  rcases transform_cases b m s hsize with ⟨q, hq, ho⟩ | ⟨e, q, hq, ho⟩
  · obtain ⟨hitems, hfragments⟩ := hq.traced hstart
    rw [ho]
    exact ⟨hitems, hfragments⟩
  · rw [ho]
    exact hq.traced hstart

theorem Finished.mem_items {p : Progress σ} {r : Except Failure Unit × Progress σ} {item : WorkItem}
    (h : Finished b signal p r) (hitem : item ∈ p.items) : item ∈ r.2.items := by
  refine h.invariant (I := fun p => item ∈ p.items) hitem (fun p hitem => ?_)
    fun p first rest r hpending hitem hs => ?_
  · simpa [Progress.items] using hitem
  · cases hs with
    | cancelled | handled => exact Progress.mem_items_note hpending _ _ hitem
    | failed => exact hitem

theorem mem_items_transform {plan : Plan} {s : σ} {q : Progress σ} {item : WorkItem}
    (hsize : 1 ≤ plan.size)
    (hq : (startOf plan m s).finish b plan.signal = q.finish b plan.signal)
    (hitem : item ∈ q.items) :
    item ∈ (transform b plan m s).progress.items := by
  have hend := (finished b plan.signal q).mem_items hitem
  rw [← hq] at hend
  rw [transform_eq b m s hsize]
  split
  · next heq => rwa [heq] at hend
  · next heq =>
    rw [heq] at hend
    exact hend

/-- Every chunk that a run takes up is the module itself, which is then small enough, or a window of
it with what its endpoints need of all that the module declares.  So chunks of the same endpoints
are the same and have the same key, in one run or in two, of whatever sizes and with whatever
answers. -/
theorem chunks_determined_by_endpoints (b : Backend σ) (b' : Backend τ) {plan plan' : Plan}
    (m : ModuleSpec) (s : σ) (s' : τ) (hsize : 1 ≤ plan.size) (hsize' : 1 ≤ plan'.size) :
    (transform b plan m s).progress.Traced plan.size m ∧
    ∀ item ∈ (transform b plan m s).progress.items,
      ∀ item' ∈ (transform b' plan' m s').progress.items,
        item.chunk.endpoints = item'.chunk.endpoints →
          item.chunk = item'.chunk ∧ item.chunk.contentKey = item'.chunk.contentKey := by
  have htraced := traced_transform b hsize m s
  have htraced' := traced_transform b' hsize' m s'
  refine ⟨htraced, fun item hitem item' hitem' he => ?_⟩
  have hchunk : item.chunk = item'.chunk :=
    (htraced.items item hitem).ext (htraced'.items item' hitem') he
  exact ⟨hchunk, congrArg ModuleSpec.contentKey hchunk⟩

/-- A backend without storage whose model finds every chunk too long. -/
def overwhelmed : Backend Unit where
  lookup _ s := (.ok none, s)
  generate _ s := (.ok (.failed .inputSizeExceeded "too many tokens"), s)
  store _ _ s := (.ok (), s)
  record _ s := s

def itemEndpoint (method : String) : Endpoint where
  id := Endpoint.identity "Items" method "GET"
  controllerClass := "Items"
  methodName := method
  httpMethod := "GET"
  path := "/items/" ++ method
  responseBody := some { name := "Item" }

def itemModule : ModuleSpec where
  projectName := "shop"
  moduleName := "items"
  endpoints := ["list", "find", "latest", "sold"].map itemEndpoint
  dtos := [{ name := "Item" }, { name := "Unused" }]

/-- The chunk of the first endpoint, cut out of the module. -/
def earlyItem : WorkItem := ⟨itemModule.window [itemEndpoint "list"], 1⟩

/-- The chunk of the first endpoint, cut out of the first half of the module. -/
def lateItem : WorkItem :=
  ⟨(itemModule.window (["list", "find"].map itemEndpoint)).window [itemEndpoint "list"], 1⟩

theorem earlyItem_mem :
    earlyItem ∈ (transform overwhelmed { size := 1 } itemModule ()).progress.items := by
  have hpending : earlyItem ∈ (startOf { size := 1 } itemModule ()).pending := by
    simp [startOf, ModuleSpec.chunks, ModuleSpec.fits, itemModule, Chunk.windows_of_pos, earlyItem,
      Plan.budget, bitLength, Nat.log2_def]
  exact mem_items_transform (by decide) rfl hpending

theorem finish_overwhelmed {p : Progress Unit} {item : WorkItem} {rest : List WorkItem}
    (hpending : p.pending = item :: rest) (hgo : p.isCancelled = false)
    (hsplit : item.canSplit = true) :
    p.finish overwhelmed none = (p.note () item rest .split).finish overwhelmed none :=
  Progress.finish_cons hpending (by simp [Progress.poll, Progress.step, attempt, overwhelmed,
    hgo, hsplit])

theorem lateItem_mem :
    lateItem ∈ (transform overwhelmed { size := 4 } itemModule ()).progress.items := by
  have hhalves : (⟨itemModule, 3⟩ : WorkItem).parts =
      [⟨itemModule.window (["list", "find"].map itemEndpoint), 2⟩,
        ⟨itemModule.window (["latest", "sold"].map itemEndpoint), 2⟩] := by
    simp [WorkItem.parts, WorkItem.partSize, WorkItem.size, ModuleSpec.chunks, ModuleSpec.fits,
      itemModule, Chunk.windows_of_pos]
  have hlate : lateItem ∈
      (⟨itemModule.window (["list", "find"].map itemEndpoint), 2⟩ : WorkItem).parts := by
    simp [WorkItem.parts, WorkItem.partSize, WorkItem.size, ModuleSpec.chunks, ModuleSpec.fits,
      ModuleSpec.window, Chunk.windows_of_pos, lateItem]
  have hstart : (startOf { size := 4 } itemModule ()).pending = [⟨itemModule, 3⟩] := by
    simp [startOf, ModuleSpec.chunks, ModuleSpec.fits, itemModule, Plan.budget, bitLength,
      Nat.log2_def]
  have hfinish := (finish_overwhelmed hstart rfl rfl).trans
    (finish_overwhelmed ((List.append_nil _).trans hhalves) rfl rfl)
  refine mem_items_transform (by decide) hfinish ?_
  exact List.mem_append_right _ (List.mem_append_left _ hlate)

theorem chunks_of_itemModule :
    1 ≤ ({ size := 1 } : Plan).size ∧ 1 ≤ ({ size := 4 } : Plan).size ∧
      earlyItem.chunk = lateItem.chunk ∧ earlyItem.chunk.contentKey = lateItem.chunk.contentKey :=
  ⟨by decide, by decide,
    (chunks_determined_by_endpoints overwhelmed overwhelmed itemModule () () (by decide)
      (by decide)).2
      earlyItem earlyItem_mem lateItem lateItem_mem rfl⟩

end ServiceMigration.Run
