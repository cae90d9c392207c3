import ServiceMigration.Api.Basic
import ServiceMigration.Json.Reader
import ServiceMigration.Text.Cut
/-!
# Answers in text

A language model wraps its answer into prose and code fences.  The answer is what stands from the
first opening brace to the last closing one, and it has to be a generated API.
-/

namespace ServiceMigration

/-- The text from the first opening brace to the last closing one; all of it if there is no such
part. -/
def extractObject (text : String) : String :=
  match Text.between? '{' '}' text.toList with
  | some inner => String.ofList ('{' :: (inner ++ ['}']))
  | none => text

/-- Why a text is no answer. -/
inductive AnswerError where
  | blank
  | malformed (problem : Json.Problem) (position : Json.Position)
  | tooManyDigits (count : Nat)
  | notObject
  | invalid (report : Validation.Report)
  | accident (a : Accident)
  deriving DecidableEq, Repr

namespace AnswerError

def text : AnswerError → String
  | .blank => "LLM returned empty content"
  | .malformed problem position =>
    "Response is not valid JSON: " ++ (Json.Error.malformed problem position).text
  | .tooManyDigits count => (Json.Error.tooManyDigits count).text
  | .notObject => "Response JSON is not an object"
  | .invalid report => "Response does not match FastApiSpec: " ++ report.text
  | .accident _ => ""

def report? : AnswerError → Option Validation.Report
  | .invalid report => some report
  | _ => none

end AnswerError

namespace ApiSpec

/-- The generated API of a document that has to be a mapping. -/
def ofDocument (v : Value) : Except AnswerError ApiSpec :=
  match v with
  | .dict _ =>
    match read v with
    | .ok s => .ok s
    | .issues i is => .error (.invalid ⟨"FastApiSpec", i :: is⟩)
    | .accident a => .error (.accident a)
  | _ => .error .notObject

def parse (text : String) : Except AnswerError ApiSpec :=
  if Text.isAllBlank text then .error .blank
  else
    match Json.parse (extractObject text) with
    | .error (.malformed problem position) => .error (.malformed problem position)
    | .error (.tooManyDigits count) => .error (.tooManyDigits count)
    | .ok v => ofDocument v

end ApiSpec

end ServiceMigration
