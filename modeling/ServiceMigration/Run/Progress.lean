import ServiceMigration.Api.Merge
import ServiceMigration.Run.Work
/-!
# The run over a module

Chunks are handled one at a time, and the parts of a chunk that was split come before everything
that was waiting behind it; so fragments arise in the order of the endpoints.  Before each item a
signal may be asked whether to go on.  Once it says no it is not asked again, and what is left is
mapped by rule.  The work ends because a split replaces an item by items of less weight altogether.
-/

namespace ServiceMigration

/-- A fragment of a generated API, and the chunk that it is for. -/
structure Run.Fragment where
  chunk : ModuleSpec
  answer : ApiSpec
  deriving Repr

structure Run.Progress (σ : Type) where
  state : σ
  pending : List Run.WorkItem
  fragments : List Run.Fragment := []
  handled : List (Run.WorkItem × Run.Handling) := []
  stats : Run.Stats := {}
  polls : Nat := 0
  isCancelled : Bool := false

namespace Run

namespace WorkItem

/-- What handling an item and all that may come of it can cost. -/
def weight (item : WorkItem) : Nat := max 1 (2 * item.size - 1)

end WorkItem

/-- What is left to do at most. -/
def load : List WorkItem → Nat
  | [] => 0
  | item :: rest => item.weight + load rest

@[simp] theorem load_nil : load [] = 0 := rfl

@[simp] theorem load_cons (item : WorkItem) (rest : List WorkItem) :
    load (item :: rest) = item.weight + load rest := rfl

@[simp] theorem load_append (xs ys : List WorkItem) : load (xs ++ ys) = load xs + load ys := by
  induction xs with
  | nil => simp
  | cons x xs ih => simp [ih, Nat.add_assoc]

/-- The windows over some endpoints weigh twice the endpoints, less one each. -/
theorem load_windows (m : ModuleSpec) (left : Int) {size : Nat} (hs : 0 < size)
    (endpoints : List Endpoint) :
    load ((Chunk.windows size endpoints).map fun w => ⟨m.window w, left⟩) +
      (Chunk.windows size endpoints).length = 2 * endpoints.length := by
  fun_induction Chunk.windows size endpoints with
  | case1 endpoints h =>
    rcases h with h | h
    · omega
    · simp [h]
  | case2 endpoints h ih =>
    have hpos : 0 < endpoints.length := List.length_pos_iff.2 fun he => h (.inr he)
    simp only [List.map_cons, load_cons, List.length_cons, WorkItem.weight, WorkItem.size,
      ModuleSpec.window, List.length_take, List.length_drop] at ih ⊢
    omega

theorem load_next_lt (item : WorkItem) (h : Handling) : load (item.next h) < item.weight := by
  have hpos : 0 < item.weight := by
    simp only [WorkItem.weight]
    omega
  cases h with
  | split =>
    simp only [WorkItem.next]
    split
    · next hsize =>
      have hsize' : 1 < item.chunk.endpoints.length := hsize
      have hpart : 0 < item.partSize := by
        simp only [WorkItem.partSize]
        omega
      have hlt : item.partSize < item.chunk.endpoints.length := by
        simp only [WorkItem.partSize, WorkItem.size]
        omega
      have hfits : item.chunk.fits item.partSize = false := by
        simp only [ModuleSpec.fits, decide_eq_false_iff_not]
        omega
      have hsum := load_windows item.chunk (item.splitsLeft - 1) hpart item.chunk.endpoints
      have htwo := Chunk.two_le_length_windows hpart hlt
      simp only [WorkItem.parts, ModuleSpec.chunks, hfits, Bool.false_eq_true, if_false,
        List.map_map, Function.comp_def]
      simp only [WorkItem.weight, WorkItem.size]
      omega
    · simpa using hpos
  | cached | answered | mapped | cancelled => simpa [WorkItem.next] using hpos

namespace Progress

/-- What is written down when a run is cancelled. -/
def cancelRecord : Record :=
  ⟨.info, "Transform cancelled; remaining chunks use the deterministic mapper"⟩

/-- Ask the signal whether the run is to be cancelled, unless it is. -/
def poll (b : Backend σ) (signal : Option (Nat → Bool)) (p : Progress σ) : Progress σ :=
  match signal with
  | none => p
  | some asked =>
    if p.isCancelled then p
    else if asked p.polls then
      { p with
        state := b.record cancelRecord p.state
        polls := p.polls + 1
        isCancelled := true }
    else
      { p with polls := p.polls + 1 }

/-- Note what was done with an item, which leaves `rest` and what the item gave rise to. -/
def note (p : Progress σ) (state : σ) (item : WorkItem) (rest : List WorkItem) (h : Handling) :
    Progress σ :=
  { p with
    state
    pending := item.next h ++ rest
    fragments := p.fragments ++ ((h.fragment? item.chunk).map (Fragment.mk item.chunk)).toList
    handled := p.handled ++ [(item, h)]
    stats := p.stats.count h }

/-- Handle the first item. -/
def step (b : Backend σ) (p : Progress σ) (item : WorkItem) (rest : List WorkItem) :
    Except Failure Unit × Progress σ :=
  if p.isCancelled then (.ok (), p.note p.state item rest .cancelled)
  else
    match attempt b item p.state with
    | (.error e, state) => (.error e, { p with state })
    | (.ok h, state) => (.ok (), p.note state item rest h)

theorem load_step_lt (b : Backend σ) (p : Progress σ) (item : WorkItem) (rest : List WorkItem)
    {q : Progress σ} (h : step b p item rest = (.ok (), q)) :
    load q.pending < load (item :: rest) := by
  have key : ∀ (s : σ) (g : Handling),
      load (p.note s item rest g).pending < load (item :: rest) := by
    intro s g
    have := load_next_lt item g
    simp only [note, load_append, load_cons]
    omega
  simp only [step] at h
  split at h
  · obtain ⟨-, rfl⟩ := Prod.mk.inj h
    exact key _ _
  · split at h
    · simp at h
    · obtain ⟨-, rfl⟩ := Prod.mk.inj h
      exact key _ _

/-- Go on until nothing is left, or until something fails for good. -/
def finish (b : Backend σ) (signal : Option (Nat → Bool)) (p : Progress σ) :
    Except Failure Unit × Progress σ :=
  match _hp : p.pending with
  | [] => (.ok (), p)
  | item :: rest =>
    match _hs : step b (p.poll b signal) item rest with
    | (.error e, q) => (.error e, q)
    | (.ok (), q) => finish b signal q
termination_by load p.pending
decreasing_by
  rw [_hp]
  exact load_step_lt b _ item rest _hs

end Progress

def bitLength (size : Int) : Nat := if size = 0 then 0 else size.natAbs.log2 + 1

structure Plan where
  /-- Most endpoints in a chunk. -/
  size : Int
  /-- How often a chunk may be split in turn; if nothing is said, as often as its size allows. -/
  depth : Option Int := none
  /-- Says at each poll whether to stop asking the model. -/
  signal : Option (Nat → Bool) := none

/-- The budget of the first chunks. -/
def Plan.budget (p : Plan) : Int := p.depth.getD (bitLength p.size)

structure Outcome (σ : Type) where
  result : Except Failure ApiSpec
  progress : Progress σ

def Progress.finalStats (p : Progress σ) : Stats := { p.stats with chunks := p.fragments.length }

def endRecord (m : ModuleSpec) (s : Stats) : Record :=
  ⟨.info, "Transformed module " ++ m.moduleName ++ ": " ++ s.summary⟩

/-- Write several records down. -/
def Backend.recordAll (b : Backend σ) (rs : List Record) (s : σ) : σ :=
  rs.foldl (fun s r => b.record r s) s

def Progress.conclude (b : Backend σ) (m : ModuleSpec) (p : Progress σ) : Outcome σ :=
  let stats := p.finalStats
  let answers := p.fragments.map Fragment.answer
  { result := .ok (ApiSpec.merge answers)
    progress :=
      { p with
        stats
        state := b.recordAll (endRecord m stats :: ApiSpec.mergeRecords answers) p.state } }

def transform (b : Backend σ) (plan : Plan) (m : ModuleSpec) (s : σ) : Outcome σ :=
  match m.chunksOf plan.size with
  | .error e =>
    { result := .error (.badValue (.chunkSize e)), progress := { state := s, pending := [] } }
  | .ok chunks =>
    let start : Progress σ := { state := s, pending := chunks.map fun c => ⟨c, plan.budget⟩ }
    match start.finish b plan.signal with
    | (.error e, p) => { result := .error e, progress := p }
    | (.ok (), p) => p.conclude b m

end Run

end ServiceMigration
