import ServiceMigration.Completion.Generator
import ServiceMigration.Mapping.Rules
/-!
# Work items

A run has a list of chunks to handle.  A chunk is looked up, or else put to a language model; a
chunk that is too long for the model is split while its budget lasts, and any other failure is made
good by the rule based mapping.  This module says what is done with one item, over whatever storage
and model there are.
-/

namespace ServiceMigration.Run

open Completion

/-- A chunk to handle, and how often it and its parts may still be split in turn. -/
structure WorkItem where
  chunk : ModuleSpec
  splitsLeft : Int
  deriving DecidableEq, Repr

/-- Storage, model and log of a run, over a state of their own. -/
structure Backend (σ : Type) where
  lookup : ModuleSpec → σ → Except Failure (Option ApiSpec) × σ
  generate : ModuleSpec → σ → Except Failure Generation × σ
  store : ModuleSpec → ApiSpec → σ → Except Failure Unit × σ
  record : Record → σ → σ

inductive Handling where
  | cached (answer : ApiSpec)
  | answered (answer : ApiSpec)
  | split
  | mapped (kind : FailureKind)
  | cancelled
  deriving Repr

def Handling.fragment? (chunk : ModuleSpec) : Handling → Option ApiSpec
  | .cached answer => some answer
  | .answered answer => some answer
  | .split => none
  | .mapped _ => some (Mapping.api chunk)
  | .cancelled => some (Mapping.api chunk)

namespace WorkItem

def size (item : WorkItem) : Nat := item.chunk.endpoints.length

/-- The item has parts, and its budget allows to go on with them. -/
def canSplit (item : WorkItem) : Bool := 1 < item.size && 0 < item.splitsLeft

/-- The number of endpoints of a part. -/
def partSize (item : WorkItem) : Nat := max 1 (item.size / 2)

/-- The parts of an item, each with one split less. -/
def parts (item : WorkItem) : List WorkItem :=
  (item.chunk.chunks item.partSize).map fun chunk => ⟨chunk, item.splitsLeft - 1⟩

def splitRecord (item : WorkItem) : Record :=
  ⟨.warning, "Chunk of " ++ toString item.size ++
    " endpoints too large for model context; retrying in chunks of " ++ toString item.partSize⟩

/-- What is written down when the mapping stands in for the model. -/
def fallbackRecord (item : WorkItem) (kind : FailureKind) (explanation : String) : Record :=
  ⟨.warning, "LLM transform failed for chunk of " ++ toString item.size ++ " endpoints (" ++
    kind.code ++ "), falling back to deterministic: " ++ explanation⟩

def next (item : WorkItem) : Handling → List WorkItem
  | .split => if 1 < item.size then item.parts else []
  | _ => []

end WorkItem

def attempt (b : Backend σ) (item : WorkItem) (s : σ) : Except Failure Handling × σ :=
  match b.lookup item.chunk s with
  | (.error e, s) => (.error e, s)
  | (.ok (some answer), s) => (.ok (.cached answer), s)
  | (.ok none, s) =>
    match b.generate item.chunk s with
    | (.error e, s) => (.error e, s)
    | (.ok (.success answer), s) =>
      match b.store item.chunk answer s with
      | (.error e, s) => (.error e, s)
      | (.ok (), s) => (.ok (.answered answer), s)
    | (.ok (.failed kind explanation), s) =>
      if kind == .inputSizeExceeded && item.canSplit then
        (.ok .split, b.record item.splitRecord s)
      else
        (.ok (.mapped kind), b.record (item.fallbackRecord kind explanation) s)

structure Stats where
  /-- Chunks that gave a fragment; chunks that were split do not count. -/
  chunks : Nat := 0
  cacheHits : Nat := 0
  calls : Nat := 0
  splits : Nat := 0
  fallbacks : Nat := 0
  cancelled : Nat := 0
  /-- Failed calls by kind, latest first. -/
  failures : List FailureKind := []
  deriving DecidableEq, Repr

namespace Stats

def count (s : Stats) : Handling → Stats
  | .cached _ => { s with cacheHits := s.cacheHits + 1 }
  | .answered _ => { s with calls := s.calls + 1 }
  | .split =>
    { s with
      calls := s.calls + 1
      splits := s.splits + 1
      failures := .inputSizeExceeded :: s.failures }
  | .mapped kind =>
    { s with
      calls := s.calls + 1
      fallbacks := s.fallbacks + 1
      failures := kind :: s.failures }
  | .cancelled => { s with cancelled := s.cancelled + 1 }

def failuresOf (s : Stats) (kind : FailureKind) : Nat := s.failures.count kind

def summary (s : Stats) : String :=
  "chunks=" ++ toString s.chunks ++ " cache_hits=" ++ toString s.cacheHits ++
    " llm_calls=" ++ toString s.calls ++ " splits=" ++ toString s.splits ++
    " fallbacks=" ++ toString s.fallbacks

end Stats

end ServiceMigration.Run
