import ServiceMigration.Service.Dto
/-!
# Services and repositories

The collaborators of controllers.  They are carried along; nothing is generated from them.
-/

namespace ServiceMigration

structure MethodParameter where
  name : String
  type : TypeRef
  deriving DecidableEq, Repr

namespace MethodParameter

open Validation in
def read : Value → Checked MethodParameter :=
  readModel "MethodParamSpec" fun es =>
    MethodParameter.mk <$> required ["name"] readString es <*> required ["type"] TypeRef.read es

def toValue (p : MethodParameter) : Value :=
  .object [("name", .str p.name), ("type", p.type.toValue)]

end MethodParameter

structure ServiceMethod where
  name : String
  params : List MethodParameter := []
  returnType : Option TypeRef := none
  deriving DecidableEq, Repr

namespace ServiceMethod

open Validation in
def read : Value → Checked ServiceMethod :=
  readModel "MethodSpec" fun es =>
    ServiceMethod.mk
      <$> required ["name"] readString es
      <*> defaulted ["params"] [] (readList MethodParameter.read) es
      <*> defaulted ["returnType", "return_type"] none (readOptional TypeRef.read) es

def toValue (m : ServiceMethod) : Value :=
  .object [
    ("name", .str m.name),
    ("params", .list (m.params.map MethodParameter.toValue)),
    ("returnType", .optional TypeRef.toValue m.returnType)]

end ServiceMethod

structure Service where
  name : String
  packageName : String := ""
  methods : List ServiceMethod := []
  deriving DecidableEq, Repr

namespace Service

def id (s : Service) : String := qualifiedName s.packageName s.name

open Validation in
def read : Value → Checked Service :=
  readModel "ServiceSpec" fun es =>
    Service.mk
      <$> required ["name"] readString es
      <*> defaulted ["packageName", "package_name"] "" readString es
      <*> defaulted ["methods"] [] (readList ServiceMethod.read) es

def toValue (s : Service) : Value :=
  .object [
    ("name", .str s.name),
    ("packageName", .str s.packageName),
    ("methods", .list (s.methods.map ServiceMethod.toValue))]

end Service

structure Repository where
  name : String
  packageName : String := ""
  deriving DecidableEq, Repr

namespace Repository

def id (r : Repository) : String := qualifiedName r.packageName r.name

open Validation in
def read : Value → Checked Repository :=
  readModel "RepositorySpec" fun es =>
    Repository.mk
      <$> required ["name"] readString es
      <*> defaulted ["packageName", "package_name"] "" readString es

def toValue (r : Repository) : Value :=
  .object [("name", .str r.name), ("packageName", .str r.packageName)]

end Repository

end ServiceMigration
