import ServiceMigration.Log
import ServiceMigration.Service.ModuleSpec
/-!
# Analysis results

Everything that was discovered about one module, in the order of discovery.  Each kind of thing is
known by its identity: the first one with an identity stays, and later ones are ignored as a whole.
-/

namespace ServiceMigration

/-- Put an item at the end, unless one of the same identity is there already; say whether it was
new. -/
def insertFirst (id : α → String) (items : List α) (a : α) : List α × Bool :=
  if items.any fun b => id b == id a then (items, false) else (items ++ [a], true)

/-- Put several items, one after the other. -/
def insertAll (id : α → String) (items more : List α) : List α :=
  more.foldl (fun items a => (insertFirst id items a).1) items

structure Analysis where
  endpoints : List Endpoint := []
  dtos : List Dto := []
  services : List Service := []
  repositories : List Repository := []
  deriving DecidableEq, Repr

namespace Analysis

def empty : Analysis := {}

def addEndpoint (a : Analysis) (e : Endpoint) : Analysis × Bool :=
  let (endpoints, isNew) := insertFirst Endpoint.id a.endpoints e
  ({ a with endpoints }, isNew)

def addDto (a : Analysis) (d : Dto) : Analysis × Bool :=
  let (dtos, isNew) := insertFirst Dto.id a.dtos d
  ({ a with dtos }, isNew)

def addService (a : Analysis) (s : Service) : Analysis × Bool :=
  let (services, isNew) := insertFirst Service.id a.services s
  ({ a with services }, isNew)

def addRepository (a : Analysis) (r : Repository) : Analysis × Bool :=
  let (repositories, isNew) := insertFirst Repository.id a.repositories r
  ({ a with repositories }, isNew)

/-- Fold another result in; what is here already is kept. -/
def merge (a b : Analysis) : Analysis where
  endpoints := insertAll Endpoint.id a.endpoints b.endpoints
  dtos := insertAll Dto.id a.dtos b.dtos
  services := insertAll Service.id a.services b.services
  repositories := insertAll Repository.id a.repositories b.repositories

def toValue (a : Analysis) : Value :=
  .object [
    ("endpoints", .list (a.endpoints.map Endpoint.toValue)),
    ("dtos", .list (a.dtos.map Dto.toValue)),
    ("services", .list (a.services.map Service.toValue)),
    ("repositories", .list (a.repositories.map Repository.toValue))]

/-- Why a payload is no analysis. -/
inductive Error where
  | invalid (report : Validation.Report)
  | accident (a : Accident)
  deriving DecidableEq, Repr

def itemOf (model : String) : Validation.Checked α → Except Error α
  | .ok a => .ok a
  | .issues i is => .error (.invalid ⟨model, i :: is⟩)
  | .accident a => .error (.accident a)

def payloadItems (payload : List (Scalar × Value)) (key : String) : Except Error (List Value) :=
  match Value.entry? (.str key) payload with
  | none => .ok []
  | some v => (Endpoint.itemsOrNone v).mapError .accident

/-- What is written down when an endpoint is dropped: the identity that the item claims. -/
def duplicateRecord (item : Value) : Record :=
  { level := .debug
    text := "Ignoring duplicate endpoint " ++ ((item.get? "id").getD .null).text }

/-- Read and add endpoints one by one.  Dropped ones are recorded, also when a later item fails. -/
def addEndpoints (a : Analysis) : List Value → List Record × Except Error Analysis
  | [] => ([], .ok a)
  | item :: rest =>
    match itemOf "EndpointSpec" (Endpoint.read item) with
    | .error e => ([], .error e)
    | .ok endpoint =>
      let (a, isNew) := a.addEndpoint endpoint
      let (records, outcome) := addEndpoints a rest
      (if isNew then records else duplicateRecord item :: records, outcome)

def addItems (read : Value → Except Error α) (add : Analysis → α → Analysis × Bool)
    (a : Analysis) : List Value → Except Error Analysis
  | [] => .ok a
  | item :: rest =>
    match read item with
    | .error e => .error e
    | .ok x => addItems read add (add a x).1 rest

def addRest (a : Analysis) (payload : List (Scalar × Value)) : Except Error Analysis := do
  let dtos ← payloadItems payload "dtos"
  let a ← addItems (fun v => itemOf "DtoSpec" (Dto.read v)) addDto a dtos
  let services ← payloadItems payload "services"
  let a ← addItems (fun v => itemOf "ServiceSpec" (Service.read v)) addService a services
  let repositories ← payloadItems payload "repositories"
  addItems (fun v => itemOf "RepositorySpec" (Repository.read v)) addRepository a repositories

/-- A result from the payload of an analysis file, with the records of what was dropped. -/
def ofEntries (payload : List (Scalar × Value)) : List Record × Except Error Analysis :=
  match payloadItems payload "endpoints" with
  | .error e => ([], .error e)
  | .ok items =>
    let (records, outcome) := addEndpoints empty items
    (records, outcome.bind fun a => addRest a payload)

def ofPayload : Value → List Record × Except Error Analysis
  | .dict entries => ofEntries entries
  | _ => ([], .error (.accident .lacksParts))

def module (a : Analysis) (projectName moduleName : String) (metadata : List (String × String)) :
    ModuleSpec where
  projectName
  moduleName
  endpoints := a.endpoints
  dtos := a.dtos
  services := a.services
  repositories := a.repositories
  metadata

open Validation in
/-- The module that a result describes, with names and metadata that come from outside. -/
def readModule (a : Analysis) (projectName moduleName : Value) (metadata : List (String × Value)) :
    Checked ModuleSpec :=
  a.module
    <$> (readString projectName).within (.key "project_name")
    <*> (readString moduleName).within (.key "module_name")
    <*> (readStringMap (.object metadata)).within (.key "metadata")

end Analysis

end ServiceMigration
