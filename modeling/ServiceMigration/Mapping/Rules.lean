import ServiceMigration.Api.Basic
import ServiceMigration.Mapping.TypeName
import ServiceMigration.Service.ModuleSpec
/-!
# The rule based mapping

A module maps one to one onto a generated API: one model for every data-transfer type and one route
for every endpoint, in order.  It is used on its own, and for every chunk that a language model
fails on.
-/

namespace ServiceMigration.Mapping

/-- The annotation of a field: addresses have a type of their own. -/
def fieldType (f : Field) : String :=
  if f.constraints.email == some true then "EmailStr" else f.type.annotated

/-- The field of a model.  An empty name for JSON is none. -/
def field (f : Field) : ApiField where
  name := f.name
  type := fieldType f
  optional := f.optional
  collection := f.type.collection.isSome
  wireName := f.wireName.filter (!·.isEmpty)
  constraints := f.constraints.arguments

def model (d : Dto) : ApiModel where
  name := simpleName d.name
  fields := d.fields.map field

/-- The name of a model, where the type or its element is a known data-transfer type, and the
annotation of the type elsewhere. -/
def reference (known : List String) (t : TypeRef) : String :=
  let simple := simpleName t.contentName
  if known.contains simple then
    if t.collection.isSome then listOf simple else simple
  else
    t.annotated

def route (known : List String) (e : Endpoint) : ApiRoute where
  path := e.path
  method := e.httpMethod
  functionName := some (snakeCase e.methodName)
  requestModel := e.requestBody.map (reference known)
  responseModel := e.responseBody.map (reference known)
  statusCode := e.statusCode
  queryParams := e.queryParams
  pathParams := e.pathParams
  headerParams := e.headerParams

def knownNames (dtos : List Dto) : List String := dtos.map fun d => simpleName d.name

def api (m : ModuleSpec) : ApiSpec where
  models := m.dtos.map model
  routes := m.endpoints.map (route (knownNames m.dtos))

end ServiceMigration.Mapping
