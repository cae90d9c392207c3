import ServiceMigration.Proofs.Service.Form
import ServiceMigration.Proofs.Service.Validated
import ServiceMigration.Service.Component
/-!
# Models are read back as they were written

Every preparation that a reader makes leaves what was written of a validated model as it is: types
are spelled out, a verb is in capitals already, identity and path are there.  So the reader gives
the model back, as long as no collection that it mentions lacks the name of its element.
-/

namespace ServiceMigration

open Validation Value

/-! ### Fields and data-transfer types -/

theorem Constraints.read_toValue (c : Constraints) : read c.toValue = .ok c := by
  simp [read, toValue, object, readModel, defaulted, firstPresent, entry?]

theorem Field.make_eq_self {f : Field}
    (h : f.constraints.forbidsAbsence = true → f.optional = false) :
    make f.name f.type f.constraints f.optional f.wireName = f := by
  have hoptional : (f.optional && !f.constraints.forbidsAbsence) = f.optional := by
    cases hforbids : f.constraints.forbidsAbsence with
    | false => simp
    | true => simp [h hforbids]
  rw [make, hoptional]

theorem Field.read_toValue {f : Field} (h : f.IsConsistent) (htype : f.type.HasElement) :
    read f.toValue = .ok f := by
  have hconstraints : readConstraints f.constraints.toValue = .ok f.constraints :=
    f.constraints.read_toValue
  have hmake := make_eq_self h.optional
  simp [read, toValue, object, readModel, required, defaulted, firstPresent, entry?, readString,
    readBool, str, Value.bool, TypeRef.read_toValue (h.type.isSettled htype), hconstraints, hmake]

theorem Dto.read_toValue {d : Dto} (h : d.IsConsistent)
    (htypes : ∀ t ∈ d.fields.map (·.type), t.HasElement) :
    read d.toValue = .ok d := by
  have hfields : readList Field.read (.list (d.fields.map Field.toValue)) = .ok d.fields :=
    readList_map fun f hf => Field.read_toValue (h f hf) (htypes _ (List.mem_map_of_mem hf))
  simp [read, toValue, object, readModel, required, defaulted, firstPresent, entry?, readString,
    readBool, str, Value.bool, hfields]

/-! ### Services and repositories -/

theorem MethodParameter.read_toValue {p : MethodParameter} (h : p.type.IsSettled) :
    read p.toValue = .ok p := by
  simp [read, toValue, object, readModel, required, firstPresent, entry?, readString, str,
    TypeRef.read_toValue h]

theorem ServiceMethod.read_toValue {m : ServiceMethod} (h : ∀ t ∈ m.types, t.IsSettled) :
    read m.toValue = .ok m := by
  have hparams : readList MethodParameter.read (.list (m.params.map MethodParameter.toValue)) =
      .ok m.params := by
    apply readList_map
    intro p hp
    exact MethodParameter.read_toValue (h _ (List.mem_append_left _ (List.mem_map_of_mem hp)))
  have hreturn : readOptional TypeRef.read (Value.optional TypeRef.toValue m.returnType) =
      .ok m.returnType := by
    apply readOptional_optional TypeRef.toValue_ne_null
    intro t ht
    exact TypeRef.read_toValue (h t (List.mem_append_right _ (Option.mem_toList.mpr ht)))
  simp [read, toValue, object, readModel, required, defaulted, firstPresent, entry?, readString,
    str, hparams, hreturn]

theorem Service.read_toValue {s : Service} (h : s.IsConsistent)
    (htypes : ∀ t ∈ s.types, t.HasElement) :
    read s.toValue = .ok s := by
  have hmethods : readList ServiceMethod.read (.list (s.methods.map ServiceMethod.toValue)) =
      .ok s.methods := by
    apply readList_map
    intro m hm
    apply ServiceMethod.read_toValue
    intro t ht
    have hmem : t ∈ s.types := List.mem_flatMap.mpr ⟨m, hm, ht⟩
    exact (h t hmem).isSettled (htypes t hmem)
  simp [read, toValue, object, readModel, required, defaulted, firstPresent, entry?, readString,
    str, hmethods]

theorem Repository.read_toValue (r : Repository) : read r.toValue = .ok r := by
  simp [read, toValue, object, readModel, required, defaulted, firstPresent, entry?,
    readString, str]

/-! ### Endpoints -/

namespace Endpoint

/-- The entries under which an endpoint is written. -/
def entries (e : Endpoint) : List (Scalar × Value) :=
  match e.toValue with
  | .dict es => es
  | _ => []

theorem toValue_eq (e : Endpoint) : e.toValue = .dict e.entries := rfl

theorem eq_of_presentText? {s t : String} (h : TypeRef.presentText? (some (str s)) = some t) :
    s = t ∧ Text.isAllBlank t = false := by
  have hblank := TypeRef.isAllBlank_of_presentText? h
  unfold TypeRef.presentText? str at h
  dsimp only at h
  split at h
  · exact absurd h nofun
  · exact ⟨Option.some.inj h, hblank⟩

/-- The verb is in capitals already. -/
theorem withVerb_entries {e : Endpoint} (h : e.IsConsistent) : withVerb e.entries = e.entries := by
  simp [withVerb, verbKey, entries, toValue, object, entry?, insertEntry, str, h.verb]

/-- The identity that is derived is the one that is written. -/
theorem withIdentity_entries {e : Endpoint} (h : e.IsConsistent) :
    withIdentity e.entries = e.entries := by
  have hclass : TypeRef.either "controllerClass" "controller_class" e.entries =
      some (str e.controllerClass) := by
    simp [TypeRef.either, entries, toValue, object, entry?]
  have hmethod : TypeRef.either "methodName" "method_name" e.entries = some (str e.methodName) := by
    simp [TypeRef.either, entries, toValue, object, entry?]
  have hverb : TypeRef.either "httpMethod" "http_method" e.entries = some (str e.httpMethod) := by
    simp [TypeRef.either, entries, toValue, object, entry?]
  have hkeep : insertEntry (.str "id") (str e.id) e.entries = e.entries := by
    simp [entries, toValue, object, insertEntry]
  rw [withIdentity, entry?_verbKey, hclass, hmethod, hverb]
  split
  · next c m v hc hm hv =>
    obtain ⟨rfl, hcBlank⟩ := eq_of_presentText? hc
    obtain ⟨rfl, hmBlank⟩ := eq_of_presentText? hm
    obtain ⟨rfl, hvBlank⟩ := eq_of_presentText? hv
    rw [← h.id hcBlank hmBlank hvBlank, hkeep]
  · rfl

theorem withPath_entries (e : Endpoint) : withPath e.entries = .ok e.entries := by
  simp [withPath, entries, toValue, object, entry?]

theorem readFields_entries {e : Endpoint} (h : ∀ t ∈ Chunk.mentions e, t.IsSettled) :
    readFields e.entries = .ok e := by
  have htype (o : Option TypeRef) (ho : ∀ t ∈ o, t.IsSettled) :
      readOptional TypeRef.read (Value.optional TypeRef.toValue o) = .ok o :=
    readOptional_optional TypeRef.toValue_ne_null fun t ht => TypeRef.read_toValue (ho t ht)
  have hparams (ps : List Parameter) (hps : ∀ p ∈ ps, p ∈ e.allParams) :
      readList Parameter.read (.list (ps.map Parameter.toValue)) = .ok ps := by
    apply readList_map
    intro p hp
    exact Parameter.read_toValue (h _ (List.mem_append_right _ (List.mem_map_of_mem (hps p hp))))
  have hrequest := htype e.requestBody fun t ht =>
    h t (by simp [Chunk.mentions, Option.mem_def.mp ht])
  have hresponse := htype e.responseBody fun t ht =>
    h t (by simp [Chunk.mentions, Option.mem_def.mp ht])
  have hquery := hparams e.queryParams fun p hp => by simp [allParams, hp]
  have hpath := hparams e.pathParams fun p hp => by simp [allParams, hp]
  have hheader := hparams e.headerParams fun p hp => by simp [allParams, hp]
  have hservices : readList readString (Value.strings e.controllerServices) =
      .ok e.controllerServices :=
    readList_map fun _ _ => rfl
  simp [readFields, entries, toValue, object, Validation.required, defaulted, firstPresent, entry?,
    readString, str, hrequest, hresponse, hquery, hpath, hheader, hservices]

theorem read_toValue {e : Endpoint} (h : e.IsConsistent)
    (htypes : ∀ t ∈ Chunk.mentions e, t.HasElement) :
    read e.toValue = .ok e := by
  have hsettled : ∀ t ∈ Chunk.mentions e, t.IsSettled :=
    fun t ht => (h.types t ht).isSettled (htypes t ht)
  rw [toValue_eq, read, readModel, withVerb_entries h, withIdentity_entries h, withPath_entries]
  exact readFields_entries hsettled

end Endpoint

end ServiceMigration
