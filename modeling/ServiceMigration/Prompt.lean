import ServiceMigration.Service.ModuleSpec
import ServiceMigration.Workspace
/-!
# Prompts

The two messages for a chunk.  The first is a fixed text; the second is a text in which the
canonical form of the chunk takes the place of a marker.  Both come with the program, or from a
directory.  There is no message about a chunk that cannot be written as text.
-/

namespace ServiceMigration

def packagedSystemPrompt : String := String.intercalate "\n" [
  "You convert the HTTP surface of a Spring Boot service into a FastAPI generation model.",
  "",
  "You receive a JSON migration spec with `endpoints` (controller methods with path, HTTP method,",
  "status code, request/response body types and query/path/header parameters) and `dtos`",
  "(Java data-transfer types with fields and bean-validation constraints).",
  "",
  "Answer with a single JSON object and nothing else:",
  "",
  "```",
  "\x7b",
  "  \"models\": [",
  "    \x7b",
  "      \"name\": \"<DTO name>\",",
  "      \"fields\": [",
  "        \x7b\"name\": \"<field>\", \"type\": \"<Python type>\", \"optional\": false, \"collection\": false,",
  "         \"alias\": null, \"constraints\": \x7b\x7d\x7d",
  "      ]",
  "    \x7d",
  "  ],",
  "  \"routes\": [",
  "    \x7b",
  "      \"path\": \"/api/...\", \"method\": \"GET\", \"functionName\": \"snake_case_name\",",
  "      \"requestModel\": null, \"responseModel\": \"<model or Python type>\", \"statusCode\": 200,",
  "      \"queryParams\": [], \"pathParams\": [], \"headerParams\": []",
  "    \x7d",
  "  ]",
  "\x7d",
  "```",
  "",
  "Rules:",
  "- One model per DTO and one route per endpoint, in input order. Do not invent endpoints.",
  "- Map Java types to Python: String -> str, Integer/Long -> int, Double/Float -> float,",
  "  Boolean -> bool, BigDecimal -> Decimal, Instant/LocalDateTime -> datetime, LocalDate -> date,",
  "  UUID -> UUID, collections -> List[<element>]. Keep DTO names unchanged.",
  "- Express bean-validation constraints as pydantic Field keyword arguments in `constraints`",
  "  (min_length, max_length, gt, ge, lt, le, pattern). Use EmailStr for @Email fields.",
  "- Copy query/path/header parameters unchanged from the endpoint.",
  ""]

def chunkMarker : String := "\x7b\x7bspec\x7d\x7d"

def packagedUserPrompt : String := String.intercalate "\n" [
  "Convert the following migration spec into the FastAPI generation model JSON.",
  "",
  "```json",
  chunkMarker,
  "```",
  ""]

/-- Where the prompts come from. -/
inductive Prompts where
  | packaged
  | directory (path : Path)
  deriving DecidableEq, Repr

namespace Prompts

def systemFile : String := "fastapi_transform_system.md"

def userFile : String := "fastapi_transform_user.md"

/-- A text that comes with the program, or the file that takes its place. -/
def load (p : Prompts) (w : Workspace) (file packaged : String) : Except Failure String :=
  match p with
  | .packaged => .ok packaged
  | .directory d =>
    match w.tree.readText w.cwd (d.child file) with
    | .ok text => .ok text
    | .error (.unreadable _) => .error (.template (d.child file))
    | .error .undecodable => .error .undecodable

def system (p : Prompts) (w : Workspace) : Except Failure String :=
  p.load w systemFile packagedSystemPrompt

/-- The message about a chunk: the first marker gives way to the text of the chunk. -/
def fill (template text : String) : String :=
  String.ofList (Text.replaceFirst chunkMarker.toList text.toList template.toList)

def user (p : Prompts) (w : Workspace) (m : ModuleSpec) : Except Failure String :=
  match p.load w userFile packagedUserPrompt, m.canonicalText with
  | .error e, _ => .error e
  | .ok _, none => .error (.badValue .tooLongToWrite)
  | .ok template, some text => .ok (fill template text)

end Prompts

end ServiceMigration
