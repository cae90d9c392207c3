import ServiceMigration.Json.Writer
import ServiceMigration.Service.Endpoint
/-!
# The generated API

What a renderer turns into source files: models with fields, and routes that refer to them.  The
rule based mapping produces it, and a language model answers with it.
-/

namespace ServiceMigration

structure ApiField where
  name : String
  type : String
  optional : Bool := false
  collection : Bool := false
  wireName : Option String := none
  constraints : List (String × Value) := []
  deriving Repr

namespace ApiField

open Validation in
def read : Value → Checked ApiField :=
  readModel "PydanticField" fun es =>
    ApiField.mk
      <$> required ["name"] readString es
      <*> required ["type"] readString es
      <*> defaulted ["optional"] false readBool es
      <*> defaulted ["collection"] false readBool es
      <*> defaulted ["alias"] none (readOptional readString) es
      <*> defaulted ["constraints"] [] readDocumentMap es

/-- The field as a document.  Constraints are free-form, and only what JSON can hold is written. -/
def toValue (f : ApiField) : Value :=
  .object [
    ("name", .str f.name),
    ("type", .str f.type),
    ("optional", .bool f.optional),
    ("collection", .bool f.collection),
    ("alias", .optional .str f.wireName),
    ("constraints", .finitePart (.object f.constraints))]

def sameAs (a b : ApiField) : Bool :=
  a.name == b.name && a.type == b.type && a.optional == b.optional &&
    a.collection == b.collection && a.wireName == b.wireName &&
    (Value.object a.constraints).sameAs (.object b.constraints)

end ApiField

structure ApiModel where
  name : String
  fields : List ApiField := []
  deriving Repr

namespace ApiModel

open Validation in
def read : Value → Checked ApiModel :=
  readModel "PydanticModel" fun es =>
    ApiModel.mk
      <$> required ["name"] readString es
      <*> defaulted ["fields"] [] (readList ApiField.read) es

def toValue (m : ApiModel) : Value :=
  .object [("name", .str m.name), ("fields", .list (m.fields.map ApiField.toValue))]

def sameFields : List ApiField → List ApiField → Bool
  | [], [] => true
  | a :: as, b :: bs => a.sameAs b && sameFields as bs
  | _, _ => false

def sameAs (a b : ApiModel) : Bool := a.name == b.name && sameFields a.fields b.fields

end ApiModel

structure ApiRoute where
  path : String
  method : String
  functionName : Option String := none
  requestModel : Option String := none
  responseModel : Option String := none
  statusCode : Option Int := none
  queryParams : List Parameter := []
  pathParams : List Parameter := []
  headerParams : List Parameter := []
  deriving DecidableEq, Repr

namespace ApiRoute

open Validation in
/-- A route from a document.  Answers call the two models by the words for bodies now and then. -/
def read : Value → Checked ApiRoute :=
  readModel "FastApiRoute" fun es =>
    ApiRoute.mk
      <$> required ["path"] readString es
      <*> required ["method"] readString es
      <*> defaulted ["functionName", "function_name"] none (readOptional readString) es
      <*> defaulted ["requestModel", "requestBody", "request_model"] none
        (readOptional readString) es
      <*> defaulted ["responseModel", "responseBody", "response_model"] none
        (readOptional readString) es
      <*> defaulted ["statusCode", "status_code"] none (readOptional readInt) es
      <*> defaulted ["queryParams", "query_params"] [] (readList Parameter.read) es
      <*> defaulted ["pathParams", "path_params"] [] (readList Parameter.read) es
      <*> defaulted ["headerParams", "header_params"] [] (readList Parameter.read) es

def toValue (r : ApiRoute) : Value :=
  .object [
    ("path", .str r.path),
    ("method", .str r.method),
    ("functionName", .optional .str r.functionName),
    ("requestModel", .optional .str r.requestModel),
    ("responseModel", .optional .str r.responseModel),
    ("statusCode", .optional .int r.statusCode),
    ("queryParams", .list (r.queryParams.map Parameter.toValue)),
    ("pathParams", .list (r.pathParams.map Parameter.toValue)),
    ("headerParams", .list (r.headerParams.map Parameter.toValue))]

end ApiRoute

/-- The models and routes of one module, or of one chunk of it. -/
structure ApiSpec where
  models : List ApiModel
  routes : List ApiRoute
  deriving Repr

namespace ApiSpec

open Validation in
/-- A generated API from a document.  Both lists have to be there, so that an answer that leaves out
one of them is refused and no endpoint is lost in silence. -/
def read : Value → Checked ApiSpec :=
  readModel "FastApiSpec" fun es =>
    ApiSpec.mk
      <$> required ["models"] (readList ApiModel.read) es
      <*> required ["routes"] (readList ApiRoute.read) es

def toValue (s : ApiSpec) : Value :=
  .object [
    ("models", .list (s.models.map ApiModel.toValue)),
    ("routes", .list (s.routes.map ApiRoute.toValue))]

/-- The generated API as text, in the order in which it is declared; none if a number of it is too
long to be written. -/
def prettyText (s : ApiSpec) : Option String := Json.render s.toValue

end ApiSpec

end ServiceMigration
