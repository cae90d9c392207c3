import ServiceMigration.Api.Answer
import ServiceMigration.Completion.Client
import ServiceMigration.Prompt
/-!
# Generating an API with a language model

A chunk is put to a completion service, and the text that comes back is read as a generated API.
What goes wrong on the way is an outcome and not an end: a failure of a kind, with an explanation.
-/

namespace ServiceMigration.Completion

inductive Generation where
  | success (answer : ApiSpec)
  | failed (kind : FailureKind) (explanation : String)
  deriving Repr

structure Session (κ : Type) where
  workspace : Workspace
  provider : κ

namespace Session

def record (s : Session κ) (r : Record) : Session κ :=
  { s with workspace := s.workspace.record r }

end Session

structure Generator where
  client : Client
  prompts : Prompts
  deriving DecidableEq, Repr

namespace Generator

def generationOfText (text : String) : Except Failure Generation :=
  match ApiSpec.parse text with
  | .ok answer => .ok (.success answer)
  | .error .blank => .ok (.failed .emptyResponse AnswerError.blank.text)
  | .error (.tooManyDigits count) => .error (.badValue (.tooManyDigits count))
  | .error (.accident a) => .error (.accident a)
  | .error e => .ok (.failed .parseError e.text)

def faultRecord (g : FaultGraph) : Record :=
  ⟨.debug, "LLM call failed (" ++ g.kind.code ++ "): " ++ g.text⟩

def messages (g : Generator) (w : Workspace) (chunk : ModuleSpec) :
    Except Failure (String × String) :=
  match g.prompts.system w with
  | .error e => .error e
  | .ok system => (g.prompts.user w chunk).map (system, ·)

def generate (g : Generator) (p : Provider κ) (chunk : ModuleSpec) (s : Session κ) :
    Except Failure Generation × Session κ :=
  match g.messages s.workspace chunk with
  | .error e => (.error e, s)
  | .ok (system, user) =>
    match g.client.call p system user s.provider with
    | (.ok text, provider) => (generationOfText text, { s with provider })
    | (.error faults, provider) =>
      (.ok (.failed faults.kind faults.text),
        { s with provider }.record (faultRecord faults))

end Generator

end ServiceMigration.Completion
