import ServiceMigration.Api.Basic
import ServiceMigration.Proofs.Json.RoundTrip
import ServiceMigration.Proofs.Service.Form
import ServiceMigration.Proofs.Service.Reading
/-!
# The written form of a generated API

A generated API is written under other names than it may be read by, and its free-form constraints
only as far as JSON can hold them.  Where they are documents with finite numbers, and the types of
parameters are such as come from reading, the form is a document and is read back
(`ApiSpec.read_toValue`).
-/

namespace ServiceMigration

open Json (maxDigits)
open Validation Value

/-- Every scalar has a form in JSON text that is read back. -/
def Scalar.IsLasting (s : Scalar) : Prop := s.FitsJson maxDigits ∧ s.IsFinite

theorem Scalar.IsWord.fitsJson {limit : Nat} (s : Scalar) (h : s.IsWord) : s.FitsJson limit := by
  cases s with
  | null | bool b | str t => trivial
  | _ => exact absurd h id

namespace ApiField

variable {f : ApiField}

theorem isDocument (h : IsDocument (Scalar.FitsJson maxDigits) (.object f.constraints)) :
    IsDocument (Scalar.FitsJson maxDigits) f.toValue := by
  rw [toValue, isDocument_object]
  refine ⟨by simp, ?_⟩
  simp only [List.forall_mem_cons]
  exact ⟨.scalar trivial, .scalar trivial, .scalar trivial, .scalar trivial,
    isDocument_optional trivial (fun _ => .scalar trivial) _, h.finitePart trivial, nofun⟩

theorem read_toValue (h : IsDocument Scalar.IsLasting (.object f.constraints)) :
    read f.toValue = .ok f := by
  have hfinite : finitePart (.object f.constraints) = .object f.constraints :=
    finitePart_eq_self (h.mono fun _ hs => hs.2)
  have hconstraints := readDocumentMap_object f.constraints
  rw [toValue, hfinite]
  generalize Value.object f.constraints = v at hconstraints
  simp [read, object, readModel, required, defaulted, firstPresent, entry?, readString,
    str, readBool, Value.bool, hconstraints]

theorem isRegular_read (v : Value) : (read v).IsRegular :=
  isRegular_readModel (fun _ =>
    ((((((isRegular_required isRegular_readString).map _).seq
      (isRegular_required isRegular_readString)).seq
      (isRegular_defaulted isRegular_readBool)).seq (isRegular_defaulted isRegular_readBool)).seq
      (isRegular_defaulted (isRegular_readOptional isRegular_readString))).seq
      (isRegular_defaulted isRegular_readDocumentMap)) v

end ApiField

namespace ApiModel

variable {m : ApiModel}

theorem isDocument
    (h : ∀ f ∈ m.fields, IsDocument (Scalar.FitsJson maxDigits) (.object f.constraints)) :
    IsDocument (Scalar.FitsJson maxDigits) m.toValue := by
  rw [toValue, isDocument_object]
  refine ⟨by simp, ?_⟩
  simp only [List.forall_mem_cons]
  exact ⟨.scalar trivial, isDocument_list_map fun f hf => ApiField.isDocument (h f hf), nofun⟩

theorem read_toValue (h : ∀ f ∈ m.fields, IsDocument Scalar.IsLasting (.object f.constraints)) :
    read m.toValue = .ok m := by
  have hfields : readList ApiField.read (.list (m.fields.map ApiField.toValue)) = .ok m.fields :=
    readList_map fun f hf => ApiField.read_toValue (h f hf)
  simp [read, toValue, object, readModel, required, defaulted, firstPresent, entry?,
    readString, str, hfields]

theorem isRegular_read (v : Value) : (read v).IsRegular :=
  isRegular_readModel (fun _ =>
    ((isRegular_required isRegular_readString).map _).seq
      (isRegular_defaulted (isRegular_readList ApiField.isRegular_read))) v

end ApiModel

namespace ApiRoute

variable {r : ApiRoute}

def params (r : ApiRoute) : List Parameter := r.queryParams ++ r.pathParams ++ r.headerParams

theorem isDocument (hstatus : ∀ i ∈ r.statusCode, (Decimal.digits i.natAbs).length ≤ maxDigits) :
    IsDocument (Scalar.FitsJson maxDigits) r.toValue := by
  have hparams : ∀ ps : List Parameter,
      IsDocument (Scalar.FitsJson maxDigits) (.list (ps.map Parameter.toValue)) :=
    fun ps => isDocument_list_map fun p _ => p.isDocument.mono Scalar.IsWord.fitsJson
  have hname : ∀ o : Option String, IsDocument (Scalar.FitsJson maxDigits) (Value.optional str o) :=
    isDocument_optional trivial fun _ => .scalar trivial
  rw [toValue, isDocument_object]
  refine ⟨by simp, ?_⟩
  simp only [List.forall_mem_cons, hparams, hname, true_and]
  refine ⟨.scalar trivial, .scalar trivial, ?_, nofun⟩
  cases hcode : r.statusCode with
  | none => exact .scalar trivial
  | some i => exact .scalar (hstatus i hcode)

theorem read_toValue (htypes : ∀ p ∈ r.params, p.type.IsSettled) : read r.toValue = .ok r := by
  have hparams : ∀ ps : List Parameter, (∀ p ∈ ps, p ∈ r.params) →
      readList Parameter.read (.list (ps.map Parameter.toValue)) = .ok ps :=
    fun ps hps => readList_map fun p hp => Parameter.read_toValue (htypes p (hps p hp))
  have hquery := hparams r.queryParams fun p hp => by simp [params, hp]
  have hpath := hparams r.pathParams fun p hp => by simp [params, hp]
  have hheader := hparams r.headerParams fun p hp => by simp [params, hp]
  simp [read, toValue, object, readModel, required, defaulted, firstPresent, entry?,
    readString, str, hquery, hpath, hheader]

theorem isRegular_read (v : Value) : (read v).IsRegular := by
  have hname := isRegular_readOptional isRegular_readString
  have hparams := isRegular_readList Parameter.isRegular_read
  exact isRegular_readModel (fun _ =>
    (((((((((isRegular_required isRegular_readString).map _).seq
      (isRegular_required isRegular_readString)).seq (isRegular_defaulted hname)).seq
      (isRegular_defaulted hname)).seq (isRegular_defaulted hname)).seq
      (isRegular_defaulted (isRegular_readOptional isRegular_readInt))).seq
      (isRegular_defaulted hparams)).seq (isRegular_defaulted hparams)).seq
      (isRegular_defaulted hparams)) v

end ApiRoute

namespace ApiSpec

/-- What keeps a generated API whole when it is written: constraints that JSON holds, numbers that
are not too long, and types that were read and have no blank element. -/
structure IsLasting (s : ApiSpec) : Prop where
  constraints : ∀ m ∈ s.models, ∀ f ∈ m.fields, IsDocument Scalar.IsLasting (.object f.constraints)
  statusCode : ∀ r ∈ s.routes, ∀ i ∈ r.statusCode, (Decimal.digits i.natAbs).length ≤ maxDigits
  typeRead : ∀ r ∈ s.routes, ∀ p ∈ r.params, ∃ v, TypeRef.read v = .ok p.type
  element : ∀ r ∈ s.routes, ∀ p ∈ r.params, ∀ c ∈ p.type.collection,
    Text.isAllBlank c.element = false

variable {s : ApiSpec}

/-- What lets a generated API be written: constraints that are documents, and numbers that are not
too long. -/
structure IsWritable (s : ApiSpec) : Prop where
  constraints : ∀ m ∈ s.models, ∀ f ∈ m.fields,
    IsDocument (Scalar.FitsJson maxDigits) (.object f.constraints)
  statusCode : ∀ r ∈ s.routes, ∀ i ∈ r.statusCode, (Decimal.digits i.natAbs).length ≤ maxDigits

theorem isDocument (h : s.IsWritable) : IsDocument (Scalar.FitsJson maxDigits) s.toValue := by
  rw [toValue, isDocument_object]
  refine ⟨by simp, ?_⟩
  simp only [List.forall_mem_cons]
  exact ⟨isDocument_list_map fun m hm => ApiModel.isDocument (h.constraints m hm),
    isDocument_list_map fun r hr => ApiRoute.isDocument (h.statusCode r hr), nofun⟩

theorem IsLasting.isSettled (h : s.IsLasting) {r : ApiRoute} (hr : r ∈ s.routes) {p : Parameter}
    (hp : p ∈ r.params) : p.type.IsSettled := by
  obtain ⟨v, hv⟩ := h.typeRead r hr p hp
  exact TypeRef.isSettled_of_read hv (h.element r hr p hp)

theorem read_toValue (h : s.IsLasting) : read s.toValue = .ok s := by
  have hmodels : readList ApiModel.read (.list (s.models.map ApiModel.toValue)) = .ok s.models :=
    readList_map fun m hm => ApiModel.read_toValue (h.constraints m hm)
  have hroutes : readList ApiRoute.read (.list (s.routes.map ApiRoute.toValue)) = .ok s.routes :=
    readList_map fun r hr => ApiRoute.read_toValue fun p hp => h.isSettled hr hp
  simp [read, toValue, object, readModel, required, firstPresent, entry?, hmodels, hroutes]

theorem isRegular_read (v : Value) : (read v).IsRegular :=
  isRegular_readModel (fun _ =>
    ((isRegular_required (isRegular_readList ApiModel.isRegular_read)).map _).seq
      (isRegular_required (isRegular_readList ApiRoute.isRegular_read))) v

end ApiSpec

end ServiceMigration
