import ServiceMigration.Completion.Client
import ServiceMigration.Json.Reader
import ServiceMigration.Json.Writer
/-!
# Scripted providers

A provider that follows a script, for rehearsing a run without a service.  It finds the chunk in the
message, writes the call down, and acts by the first rule that fits: it fails, it says a given text,
or it echoes the chunk as a generated API without fields.
-/

namespace ServiceMigration.Completion

/-- What a rule does. -/
inductive Action where
  | fail (faults : FaultGraph)
  | say (text : Option String)
  | echo
  deriving DecidableEq, Repr

/-- A rule of a script.  A condition that is missing always holds. -/
structure Rule where
  /-- The chunk has at least so many endpoints. -/
  leastEndpoints : Option Int := none
  method : Option Value := none
  /-- So many calls came before this one. -/
  call : Option Int := none
  action : Action := .echo
  deriving Repr

/-- A call as it is written down: the request, and what the chunk in it was made of. -/
structure Call where
  model : String
  timeout : Option Amount
  endpoints : List Value
  dtos : List Value
  deriving Repr

structure Glimpse where
  /-- The endpoints, each with its method. -/
  endpoints : List (Value × Value) := []
  dtos : List Value := []
  present : Bool := false

namespace Glimpse

/-- Items of a document, each with the value of a key. -/
def itemsWith (key : String) : Option Value → Option (List (Value × Value))
  | some (.list items) => items.mapM fun v => (v.get? key).map (v, ·)
  | _ => none

def ofValue? (v : Value) : Option Glimpse := do
  let endpoints ← itemsWith "methodName" (v.get? "endpoints")
  let dtos ← itemsWith "name" (v.get? "dtos")
  pure { endpoints, dtos := dtos.map (·.2), present := true }

/-- The chunk in a message: the document from the first opening brace to the last closing one. -/
def ofMessage (text : String) : Glimpse :=
  match Text.between? '{' '}' text.toList with
  | none => {}
  | some inner =>
    match Json.parseChars ('{' :: (inner ++ ['}'])) with
    | .ok v => (ofValue? v).getD {}
    | .error _ => {}

def methods (g : Glimpse) : List Value := g.endpoints.map (·.2)

def echoedRoute (endpoint : Value × Value) : Value :=
  .object [
    ("path", (endpoint.1.get? "path").getD .null),
    ("method", (endpoint.1.get? "httpMethod").getD .null),
    ("functionName", .str ("llm_" ++ endpoint.2.text))]

def echoed (g : Glimpse) : Value :=
  .object [
    ("models", .list (g.dtos.map fun name => .object [("name", name), ("fields", .list [])])),
    ("routes", .list (g.endpoints.map echoedRoute))]

def echoText (g : Glimpse) : String :=
  if g.present then "```json\n" ++ Json.layout g.echoed ++ "\n```" else "no chunk"

end Glimpse

namespace Rule

/-- All conditions of a rule hold. -/
def fits (r : Rule) (calls : Nat) (g : Glimpse) : Bool :=
  ((r.leastEndpoints.map fun (n : Int) => decide (n ≤ g.endpoints.length)).getD true) &&
    ((r.method.map fun m => g.methods.any (·.sameAs m)).getD true) &&
    ((r.call.map (· == (calls : Int))).getD true)

end Rule

def Action.reply (g : Glimpse) : Action → Reply
  | .fail faults => .fault faults
  | .say text => .content text
  | .echo => .content (some g.echoText)

/-- The provider that follows a script.  Its state are the calls so far. -/
def scripted (rules : List Rule) : Provider (List Call) where
  ask request calls :=
    let g := Glimpse.ofMessage request.user
    let action := ((rules.find? (·.fits calls.length g)).map Rule.action).getD .echo
    (action.reply g, calls ++ [{
      model := request.model
      timeout := request.timeout
      endpoints := g.methods
      dtos := g.dtos }])

end ServiceMigration.Completion
