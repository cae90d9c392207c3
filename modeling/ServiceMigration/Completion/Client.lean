import ServiceMigration.Completion.Fault
import ServiceMigration.Service.Constraints
/-!
# Calling a completion service

A request names a model and carries two messages: what the model is to do in general, and what
about.  A provider answers requests; it has a state of its own, so that it may answer the same
request differently another time.
-/

namespace ServiceMigration.Completion

structure Request where
  model : String
  timeout : Option Amount
  system : String
  user : String
  deriving DecidableEq, Repr

/-- What comes of a request.  A completion may lack content. -/
inductive Reply where
  | fault (faults : FaultGraph)
  | content (text : Option String)
  deriving DecidableEq, Repr

structure Provider (κ : Type) where
  ask : Request → κ → Reply × κ

/-- The model that is asked when none is named. -/
def defaultModel : String := "claude-sonnet-4-20250514"

def modelVariable : String := "API_MIGRATOR_MODEL"

structure Client where
  model : String
  timeout : Option Amount := none
  deriving DecidableEq, Repr

namespace Client

/-- A client for the model that is named, or else for that of the environment, or else for the
default one.  An empty name is none. -/
def make (named environment : Option String) (timeout : Option Amount) : Client where
  model := ((named.filter (!·.isEmpty)).or (environment.filter (!·.isEmpty))).getD defaultModel
  timeout

/-- Ask for a completion; one without content is an empty text. -/
def call (c : Client) (p : Provider κ) (system user : String) (k : κ) :
    Except FaultGraph String × κ :=
  match p.ask { model := c.model, timeout := c.timeout, system, user } k with
  | (.fault g, k) => (.error g, k)
  | (.content text, k) => (.ok (text.getD ""), k)

end Client

/-- A provider that cannot be reached. -/
def unreachable : Provider Unit where
  ask _ _ := (.fault [{ name := "ConnectionError", text := "no completion service" }], ())

end ServiceMigration.Completion
