import ServiceMigration.Json.Writer
import ServiceMigration.Service.Component
import ServiceMigration.Service.Endpoint
/-!
# Modules

The unit of a migration: the endpoints, data-transfer types and collaborators of one module of a
project, with free metadata.  Its canonical text is what a language model is asked about and what
cached answers are filed under.
-/

namespace ServiceMigration

structure ModuleSpec where
  projectName : String
  moduleName : String
  endpoints : List Endpoint := []
  dtos : List Dto := []
  services : List Service := []
  repositories : List Repository := []
  metadata : List (String × String) := []
  deriving DecidableEq, Repr

namespace ModuleSpec

open Validation in
def read : Value → Checked ModuleSpec :=
  readModel "MigrationSpec" fun es =>
    ModuleSpec.mk
      <$> required ["projectName", "project_name"] readString es
      <*> required ["moduleName", "module_name"] readString es
      <*> defaulted ["endpoints"] [] (readList Endpoint.read) es
      <*> defaulted ["dtos"] [] (readList Dto.read) es
      <*> defaulted ["services"] [] (readList Service.read) es
      <*> defaulted ["repositories"] [] (readList Repository.read) es
      <*> defaulted ["metadata"] [] readStringMap es

def toValue (m : ModuleSpec) : Value :=
  .object [
    ("projectName", .str m.projectName),
    ("moduleName", .str m.moduleName),
    ("endpoints", .list (m.endpoints.map Endpoint.toValue)),
    ("dtos", .list (m.dtos.map Dto.toValue)),
    ("services", .list (m.services.map Service.toValue)),
    ("repositories", .list (m.repositories.map Repository.toValue)),
    ("metadata", .object (m.metadata.map fun (k, v) => (k, .str v)))]

/-- The module as text, with the entries of every mapping in the order of their keys; none if a
number of it is too long to be written. -/
def canonicalText (m : ModuleSpec) : Option String := Json.canonical m.toValue

end ModuleSpec

end ServiceMigration
