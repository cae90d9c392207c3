import ServiceMigration.Text.Case
import ServiceMigration.Text.Cut
/-!
# Faults of a completion service

A call of a completion service may end in a fault, and a fault may go back to others: to its cause,
or to what was going on when it arose.  These links can lead in a circle.  One kind of fault matters
to a migration: that the request was too long for the model, because a shorter request may then
succeed.  It may be said by any fault on the way back.
-/

namespace ServiceMigration.Completion

/-- A fault.  `cause` and `context` are the places of other faults among those that are known. -/
structure Fault where
  name : String
  text : String
  isOverflow : Bool := false
  cause : Option Nat := none
  context : Option Nat := none
  deriving DecidableEq, Repr

/-- What services say when a request is too long. -/
def overflowPhrases : List String := [
  "context length",
  "context window",
  "context_length_exceeded",
  "tokens to keep",
  "maximum context",
  "too many tokens",
  "prompt is too long"]

namespace Fault

/-- Where a fault goes back to: its cause, and without one its context. -/
def back (f : Fault) : Option Nat :=
  match f.cause with
  | some i => some i
  | none => f.context

/-- The fault says that the request was too long, by its kind or in its words. -/
def saysTooLong (f : Fault) : Bool :=
  f.isOverflow ||
    overflowPhrases.any fun phrase => Text.occursIn phrase.toList (Text.lower f.text).toList

end Fault

/-- Faults that know each other by their places, the outermost one first. -/
abbrev FaultGraph := List Fault

namespace FaultGraph

/-- The places on the way back from a place, as far as they have not been visited.  Every step
visits one more place, so the fuel need not exceed the number of places. -/
def wayBack (g : FaultGraph) : Nat → List Nat → Nat → List Nat
  | 0, _, _ => []
  | fuel + 1, visited, i =>
    if visited.contains i then []
    else
      match g[i]? with
      | none => []
      | some f =>
        match f.back with
        | none => [i]
        | some j => i :: wayBack g fuel (i :: visited) j

/-- The way back from a place; it ends where it would meet itself. -/
def path (g : FaultGraph) (root : Nat) : List Nat := wayBack g g.length [] root

/-- Some fault on the way back from a place says that the request was too long. -/
def saysTooLong (g : FaultGraph) (root : Nat) : Bool :=
  (g.path root).any fun i => (g[i]?.map Fault.saysTooLong).getD false

/-- What the outermost fault says. -/
def text (g : FaultGraph) : String := (g.head?.map Fault.text).getD ""

/-- What the outermost fault is called. -/
def name (g : FaultGraph) : String := (g.head?.map Fault.name).getD ""

end FaultGraph

/-- Why a chunk has no answer. -/
inductive FailureKind where
  | transport
  | emptyResponse
  | parseError
  | inputSizeExceeded
  deriving DecidableEq, Repr

namespace FailureKind

def code : FailureKind → String
  | .transport => "transport"
  | .emptyResponse => "empty_response"
  | .parseError => "parse_error"
  | .inputSizeExceeded => "input_size_exceeded"

/-- All kinds. -/
def all : List FailureKind := [.transport, .emptyResponse, .parseError, .inputSizeExceeded]

end FailureKind

namespace FaultGraph

/-- What kind of failure a fault is, with those that it goes back to. -/
def kindAt (g : FaultGraph) (root : Nat) : FailureKind :=
  if g.saysTooLong root then .inputSizeExceeded else .transport

/-- What kind of failure the outermost fault is. -/
def kind (g : FaultGraph) : FailureKind := g.kindAt 0

end FaultGraph

end ServiceMigration.Completion
