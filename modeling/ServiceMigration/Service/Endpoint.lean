import ServiceMigration.Service.TypeRef
import ServiceMigration.Text.Case
/-!
# Endpoints

One HTTP operation of a controller.  An endpoint is identified by its controller, its method and the
verb in capitals; whatever identity a document claims gives way to that.  Its path is joined from
the mappings of controller and method unless the document gives one.
-/

namespace ServiceMigration

structure Parameter where
  name : String
  type : TypeRef
  required : Option Bool := none
  source : String := "query"
  optional : Option Bool := none
  deriving DecidableEq, Repr

namespace Parameter

def isRequired (p : Parameter) : Bool :=
  match p.required, p.optional with
  | some r, _ => r
  | none, some o => !o
  | none, none => false

open Validation in
def read : Value → Checked Parameter :=
  readModel "ParameterSpec" fun es =>
    Parameter.mk
      <$> Validation.required ["name"] readString es
      <*> Validation.required ["type"] TypeRef.read es
      <*> defaulted ["required"] none (readOptional readBool) es
      <*> defaulted ["source"] "query" readString es
      <*> defaulted ["optional"] none (readOptional readBool) es

def toValue (p : Parameter) : Value :=
  .object [
    ("name", .str p.name),
    ("type", p.type.toValue),
    ("required", .optional .bool p.required),
    ("source", .str p.source),
    ("optional", .optional .bool p.optional)]

end Parameter

/-- A part of a path without slashes at its ends. -/
def trimSlashes (s : String) : List Char := Text.trimBoth (· == '/') s.toList

def pathSegments (parts : List (Option String)) : List (List Char) :=
  (parts.filterMap fun p => p.map trimSlashes).filter (!·.isEmpty)

/-- One absolute path from the mappings of a controller and a method. -/
def joinPaths (parts : List (Option String)) : String :=
  String.ofList ('/' :: Text.joinWith ['/'] (pathSegments parts))

structure Endpoint where
  id : String
  controllerClass : String
  controllerPath : String := ""
  methodName : String
  methodPath : String := ""
  httpMethod : String
  path : String
  statusCode : Option Int := none
  requestBody : Option TypeRef := none
  responseBody : Option TypeRef := none
  queryParams : List Parameter := []
  pathParams : List Parameter := []
  headerParams : List Parameter := []
  controllerServices : List String := []
  deriving DecidableEq, Repr

namespace Endpoint

def identity (controllerClass methodName httpMethod : String) : String :=
  controllerClass ++ "#" ++ methodName ++ "::" ++ Text.upper httpMethod

/-- A value as part of a path: nothing where it is absent, and texts only. -/
def pathPart : Option Value → Except Accident (Option String)
  | none => .ok none
  | some (.scalar (.str s)) => .ok (some s)
  | some v => if v.isFalsy then .ok none else .error .lacksParts

def joinedPath (controllerPath methodPath : Option Value) : Except Accident String :=
  match pathPart controllerPath with
  | .error a => .error a
  | .ok c =>
    match pathPart methodPath with
    | .error a => .error a
    | .ok m => .ok (joinPaths [c, m])

def verbKey (entries : List (Scalar × Value)) : String :=
  if (Value.entry? (.str "httpMethod") entries).isSome then "httpMethod" else "http_method"

def withVerb (entries : List (Scalar × Value)) : List (Scalar × Value) :=
  match Value.entry? (.str (verbKey entries)) entries with
  | some (.scalar (.str s)) =>
    Value.insertEntry (.str (verbKey entries)) (.str (Text.upper s)) entries
  | _ => entries

/-- The entries with the identity, where its three parts are there. -/
def withIdentity (entries : List (Scalar × Value)) : List (Scalar × Value) :=
  let controller := TypeRef.either "controllerClass" "controller_class" entries
  let method := TypeRef.either "methodName" "method_name" entries
  let verb := Value.entry? (.str (verbKey entries)) entries
  match TypeRef.presentText? controller, TypeRef.presentText? method,
      TypeRef.presentText? verb with
  | some c, some m, some v => Value.insertEntry (.str "id") (.str (identity c m v)) entries
  | _, _, _ => entries

def withPath (entries : List (Scalar × Value)) : Except Accident (List (Scalar × Value)) :=
  if (Value.entry? (.str "path") entries).isSome then .ok entries
  else
    match joinedPath (TypeRef.either "controllerPath" "controller_path" entries)
        (TypeRef.either "methodPath" "method_path" entries) with
    | .ok path => .ok (Value.insertEntry (.str "path") (.str path) entries)
    | .error a => .error a

open Validation in
/-- An endpoint from entries in which identity and path have been derived. -/
def readFields (es : List (Scalar × Value)) : Checked Endpoint :=
  Endpoint.mk
    <$> required ["id"] readString es
    <*> required ["controllerClass", "controller_class"] readString es
    <*> defaulted ["controllerPath", "controller_path"] "" readString es
    <*> required ["methodName", "method_name"] readString es
    <*> defaulted ["methodPath", "method_path"] "" readString es
    <*> required ["httpMethod", "http_method"] readString es
    <*> required ["path"] readString es
    <*> defaulted ["statusCode", "status_code"] none (readOptional readInt) es
    <*> defaulted ["requestBody", "request_body"] none (readOptional TypeRef.read) es
    <*> defaulted ["responseBody", "response_body"] none (readOptional TypeRef.read) es
    <*> defaulted ["queryParams", "query_params"] [] (readList Parameter.read) es
    <*> defaulted ["pathParams", "path_params"] [] (readList Parameter.read) es
    <*> defaulted ["headerParams", "header_params"] [] (readList Parameter.read) es
    <*> defaulted ["controllerServices", "controller_services"] [] (readList readString) es

open Validation in
def read : Value → Checked Endpoint :=
  readModel "EndpointSpec" fun es =>
    match withPath (withIdentity (withVerb es)) with
    | .ok es => readFields es
    | .error a => .accident a

/-- What may be said of a new endpoint besides its identity, as it comes from outside. -/
structure Draft where
  controllerPath : Value := .str ""
  methodPath : Value := .str ""
  statusCode : Value := .null
  requestBody : Option TypeRef := none
  responseBody : Option TypeRef := none
  queryParams : List Parameter := []
  pathParams : List Parameter := []
  headerParams : List Parameter := []
  controllerServices : Value := .null

/-- The items that a value gives when it is gone through: items, keys, or characters. -/
def itemsOf : Value → Except Accident (List Value)
  | .list items => .ok items
  | .dict entries => .ok (entries.map fun e => .scalar e.1)
  | .scalar (.str s) => .ok (s.toList.map fun c => .str (String.singleton c))
  | _ => .error .notIterable

/-- The items of a value; what counts as absent has none. -/
def itemsOrNone (v : Value) : Except Accident (List Value) :=
  if v.isFalsy then .ok [] else itemsOf v

open Validation in
/-- A complete new endpoint, with identity and path derived.  Issues go by the names of the
draft. -/
def create (controllerClass methodName httpMethod : Value) (d : Draft) : Checked Endpoint :=
  match httpMethod.asString?, joinedPath (some d.controllerPath) (some d.methodPath),
      itemsOrNone d.controllerServices with
  | none, _, _ => .accident .lacksParts
  | _, .error a, _ => .accident a
  | _, _, .error a => .accident a
  | some verb, .ok path, .ok services =>
    Endpoint.mk
      <$> .ok (identity controllerClass.text methodName.text (Text.upper verb))
      <*> (readString controllerClass).within (.key "controller_class")
      <*> (readString d.controllerPath).within (.key "controller_path")
      <*> (readString methodName).within (.key "method_name")
      <*> (readString d.methodPath).within (.key "method_path")
      <*> .ok (Text.upper verb)
      <*> .ok path
      <*> (readOptional readInt d.statusCode).within (.key "status_code")
      <*> .ok d.requestBody
      <*> .ok d.responseBody
      <*> .ok d.queryParams
      <*> .ok d.pathParams
      <*> .ok d.headerParams
      <*> (readItemsFrom readString 0 services).within (.key "controller_services")

/-- All parameters: those of the query, of the path, and of the header. -/
def allParams (e : Endpoint) : List Parameter := e.queryParams ++ e.pathParams ++ e.headerParams

def toValue (e : Endpoint) : Value :=
  .object [
    ("id", .str e.id),
    ("controllerClass", .str e.controllerClass),
    ("controllerPath", .str e.controllerPath),
    ("methodName", .str e.methodName),
    ("methodPath", .str e.methodPath),
    ("httpMethod", .str e.httpMethod),
    ("path", .str e.path),
    ("statusCode", .optional .int e.statusCode),
    ("requestBody", .optional TypeRef.toValue e.requestBody),
    ("responseBody", .optional TypeRef.toValue e.responseBody),
    ("queryParams", .list (e.queryParams.map Parameter.toValue)),
    ("pathParams", .list (e.pathParams.map Parameter.toValue)),
    ("headerParams", .list (e.headerParams.map Parameter.toValue)),
    ("controllerServices", .strings e.controllerServices)]

end Endpoint

end ServiceMigration
