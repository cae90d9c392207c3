import ServiceMigration.Service.Constraints
import ServiceMigration.Service.TypeRef
/-!
# Data-transfer types

The classes and records that requests and responses carry, with their fields.
-/

namespace ServiceMigration

structure Field where
  name : String
  type : TypeRef
  constraints : Constraints := {}
  optional : Bool := false
  wireName : Option String := none
  deriving DecidableEq, Repr

namespace Field

open Validation in
/-- Constraints may be given as null, which is none. -/
def readConstraints : Value → Checked Constraints
  | .scalar .null => .ok {}
  | v => Constraints.read v

/-- A field whose constraints forbid absence is not optional, whatever is said. -/
def make (name : String) (type : TypeRef) (constraints : Constraints) (optional : Bool)
    (wireName : Option String) : Field :=
  { name, type, constraints, optional := optional && !constraints.forbidsAbsence, wireName }

open Validation in
def read : Value → Checked Field :=
  readModel "FieldSpec" fun es =>
    make
      <$> required ["name"] readString es
      <*> required ["type"] TypeRef.read es
      <*> defaulted ["validation"] {} readConstraints es
      <*> defaulted ["optional"] false readBool es
      <*> defaulted ["jsonAlias", "json_alias"] none (readOptional readString) es

def toValue (f : Field) : Value :=
  .object [
    ("name", .str f.name),
    ("type", f.type.toValue),
    ("validation", f.constraints.toValue),
    ("optional", .bool f.optional),
    ("jsonAlias", .optional .str f.wireName)]

end Field

def qualifiedName (packageName name : String) : String := packageName ++ "." ++ name

/-- A data-transfer type; `record` marks Java records. -/
structure Dto where
  name : String
  packageName : String := ""
  fields : List Field := []
  record : Bool := false
  deriving DecidableEq, Repr

namespace Dto

def id (d : Dto) : String := qualifiedName d.packageName d.name

open Validation in
def read : Value → Checked Dto :=
  readModel "DtoSpec" fun es =>
    Dto.mk
      <$> required ["name"] readString es
      <*> defaulted ["packageName", "package_name"] "" readString es
      <*> defaulted ["fields"] [] (readList Field.read) es
      <*> defaulted ["record"] false readBool es

def toValue (d : Dto) : Value :=
  .object [
    ("name", .str d.name),
    ("packageName", .str d.packageName),
    ("fields", .list (d.fields.map Field.toValue)),
    ("record", .bool d.record)]

end Dto

end ServiceMigration
