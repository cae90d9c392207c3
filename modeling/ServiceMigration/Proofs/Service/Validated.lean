import ServiceMigration.Chunk.Closure
import ServiceMigration.Proofs.Service.Reading
import ServiceMigration.Proofs.Text.Case
/-!
# What holds of every model that was validated

The fields of a validated model fit together: types have names, a field whose constraints forbid
absence is not optional, a verb is in capitals, and an endpoint goes by the identity that its parts
give.  Each condition (`IsConsistent`) asks of a model no more than its reader ensures, whatever was
read.
-/

namespace ServiceMigration

open Validation Value

/-! ### Fields and data-transfer types -/

structure Field.IsConsistent (f : Field) : Prop where
  type : f.type.IsNamed
  optional : f.constraints.forbidsAbsence = true → f.optional = false

theorem Field.isConsistent_of_read {v : Value} {f : Field} (h : read v = .ok f) :
    f.IsConsistent := by
  obtain ⟨es, -, h⟩ := exists_of_readModel h
  simp only [Checked.seq_eq_ok, Checked.map_eq_ok] at h
  obtain ⟨-, wireName, ⟨-, optional, ⟨-, constraints, ⟨-, type, ⟨name, -, rfl⟩, htype, rfl⟩, -,
    rfl⟩, -, rfl⟩,
    -, rfl⟩ := h
  constructor
  · exact of_required (fun _ _ => TypeRef.isNamed_of_read) htype
  · intro hforbids
    rw [make] at hforbids ⊢
    simp [hforbids]

def Dto.IsConsistent (d : Dto) : Prop := ∀ f ∈ d.fields, f.IsConsistent

theorem Dto.isConsistent_of_read {v : Value} {d : Dto} (h : read v = .ok d) : d.IsConsistent := by
  obtain ⟨es, -, h⟩ := exists_of_readModel h
  simp only [Checked.seq_eq_ok, Checked.map_eq_ok] at h
  obtain ⟨-, record, ⟨-, fields, ⟨-, package, ⟨name, -, rfl⟩, -, rfl⟩, hfields, rfl⟩, -, rfl⟩ := h
  exact forall_mem_of_defaulted_list (fun _ _ => Field.isConsistent_of_read) hfields

/-! ### Services -/

/-- The types that a method mentions. -/
def ServiceMethod.types (m : ServiceMethod) : List TypeRef :=
  m.params.map (·.type) ++ m.returnType.toList

def Service.types (s : Service) : List TypeRef := s.methods.flatMap (·.types)

def Service.IsConsistent (s : Service) : Prop := ∀ t ∈ s.types, t.IsNamed

theorem MethodParameter.isNamed_of_read {v : Value} {p : MethodParameter} (h : read v = .ok p) :
    p.type.IsNamed := by
  obtain ⟨es, -, h⟩ := exists_of_readModel h
  simp only [Checked.seq_eq_ok, Checked.map_eq_ok] at h
  obtain ⟨-, type, ⟨name, -, rfl⟩, htype, rfl⟩ := h
  exact of_required (fun _ _ => TypeRef.isNamed_of_read) htype

theorem ServiceMethod.isNamed_of_read {v : Value} {m : ServiceMethod} (h : read v = .ok m) :
    ∀ t ∈ m.types, t.IsNamed := by
  obtain ⟨es, -, h⟩ := exists_of_readModel h
  simp only [Checked.seq_eq_ok, Checked.map_eq_ok] at h
  obtain ⟨-, returnType, ⟨-, params, ⟨name, -, rfl⟩, hparams, rfl⟩, hreturn, rfl⟩ := h
  intro t ht
  rcases List.mem_append.mp ht with ht | ht
  · obtain ⟨p, hp, rfl⟩ := List.mem_map.mp ht
    exact forall_mem_of_defaulted_list (fun _ _ => MethodParameter.isNamed_of_read) hparams p hp
  · exact forall_mem_of_defaulted_optional (fun _ _ => TypeRef.isNamed_of_read) hreturn t
      (Option.mem_toList.mp ht)

theorem Service.isConsistent_of_read {v : Value} {s : Service} (h : read v = .ok s) :
    s.IsConsistent := by
  obtain ⟨es, -, h⟩ := exists_of_readModel h
  simp only [Checked.seq_eq_ok, Checked.map_eq_ok] at h
  obtain ⟨-, methods, ⟨-, package, ⟨name, -, rfl⟩, -, rfl⟩, hmethods, rfl⟩ := h
  intro t ht
  obtain ⟨m, hm, ht⟩ := List.mem_flatMap.mp ht
  exact forall_mem_of_defaulted_list (fun _ _ => ServiceMethod.isNamed_of_read) hmethods m hm t ht

/-! ### Endpoints -/

theorem Parameter.isNamed_of_read {v : Value} {p : Parameter} (h : read v = .ok p) :
    p.type.IsNamed := by
  obtain ⟨es, -, h⟩ := exists_of_readModel h
  simp only [Checked.seq_eq_ok, Checked.map_eq_ok] at h
  obtain ⟨-, optional, ⟨-, source, ⟨-, isRequired, ⟨-, type, ⟨name, -, rfl⟩, htype, rfl⟩, -, rfl⟩,
    -, rfl⟩,
    -, rfl⟩ := h
  exact of_required (fun _ _ => TypeRef.isNamed_of_read) htype

structure Endpoint.IsConsistent (e : Endpoint) : Prop where
  verb : Text.upper e.httpMethod = e.httpMethod
  id : Text.isAllBlank e.controllerClass = false → Text.isAllBlank e.methodName = false →
    Text.isAllBlank e.httpMethod = false →
      e.id = identity e.controllerClass e.methodName e.httpMethod
  types : ∀ t ∈ Chunk.mentions e, t.IsNamed

namespace Endpoint

theorem entry?_of_required {name s : String} {es : List (Scalar × Value)}
    (h : Validation.required [name] readString es = .ok s) : entry? (.str name) es =
      some (str s) := by
  obtain ⟨v, hv, hread⟩ := exists_of_required h
  obtain rfl := eq_str_of_readString hread
  simpa using hv

theorem either_of_required {first second s : String} {es : List (Scalar × Value)}
    (h : Validation.required [first, second] readString es = .ok s) :
    TypeRef.either first second es = some (str s) := by
  obtain ⟨v, hv, hread⟩ := exists_of_required h
  obtain rfl := eq_str_of_readString hread
  unfold TypeRef.either
  cases hfirst : entry? (.str first) es with
  | some w => simpa [hfirst] using hv
  | none => simpa [hfirst] using hv

theorem either_insertEntry {first second k : String} (hfirst : first ≠ k)
    (hsecond : second ≠ k) (v : Value) (es : List (Scalar × Value)) :
    TypeRef.either first second (insertEntry (.str k) v es) = TypeRef.either first second es := by
  rw [TypeRef.either, TypeRef.either, entry?_insertEntry_of_ne hfirst,
    entry?_insertEntry_of_ne hsecond]

theorem entry?_verbKey (es : List (Scalar × Value)) :
    entry? (.str (verbKey es)) es = TypeRef.either "httpMethod" "http_method" es := by
  unfold verbKey TypeRef.either
  cases h : entry? (.str "httpMethod") es with
  | some v => simpa using h
  | none => simp

/-- A verb that is a text once it has been prepared was one before, which is now in capitals. -/
theorem exists_of_withVerb {es : List (Scalar × Value)} {s : String}
    (h : TypeRef.either "httpMethod" "http_method" (withVerb es) = some (str s)) :
    ∃ v, TypeRef.either "httpMethod" "http_method" es = some (str v) ∧ s = Text.upper v := by
  have hkeep : ∀ v, TypeRef.either "httpMethod" "http_method"
      (insertEntry (.str (verbKey es)) v es) = some v := by
    intro v
    unfold verbKey TypeRef.either
    cases hfirst : entry? (.str "httpMethod") es with
    | some w => simp [entry?_insertEntry_self]
    | none =>
      have hne : "httpMethod" ≠ "http_method" := by decide
      simp [entry?_insertEntry_self, entry?_insertEntry_of_ne hne, hfirst]
  unfold withVerb at h
  split at h
  · next v hverb =>
    rw [hkeep, Option.some.injEq] at h
    cases h
    exact ⟨v, (entry?_verbKey es).symm.trans hverb, rfl⟩
  · next hother =>
    rw [← entry?_verbKey] at h
    exact absurd h (hother s)

theorem upper_of_withVerb {es : List (Scalar × Value)} {s : String}
    (h : TypeRef.either "httpMethod" "http_method" (withVerb es) = some (str s)) :
      Text.upper s = s := by
  obtain ⟨v, -, rfl⟩ := exists_of_withVerb h
  exact Text.upper_upper v

/-- The identity that was derived is the one that is read. -/
theorem id_of_withIdentity {es : List (Scalar × Value)} {c m v id : String}
    (hcontroller : TypeRef.either "controllerClass" "controller_class" es = some (str c))
    (hmethod : TypeRef.either "methodName" "method_name" es = some (str m))
    (hverb : TypeRef.either "httpMethod" "http_method" es = some (str v))
    (hc : Text.isAllBlank c = false) (hm : Text.isAllBlank m = false)
    (hv : Text.isAllBlank v = false)
    (hid : entry? (.str "id") (withIdentity es) = some (str id)) : id = identity c m v := by
  rw [withIdentity, entry?_verbKey, hcontroller, hmethod, hverb, TypeRef.presentText?_str hc,
    TypeRef.presentText?_str hm, TypeRef.presentText?_str hv, entry?_insertEntry_self] at hid
  cases hid
  rfl

theorem withPath_cases {es prepared : List (Scalar × Value)} (h : withPath es = .ok prepared) :
    prepared = es ∨ ∃ v, prepared = insertEntry (.str "path") v es := by
  unfold withPath at h
  split at h
  · exact .inl (Except.ok.inj h).symm
  · split at h
    · exact .inr ⟨_, (Except.ok.inj h).symm⟩
    · exact absurd h nofun

theorem entry?_withIdentity {name : String} (h : name ≠ "id") (es : List (Scalar × Value)) :
    entry? (.str name) (withIdentity es) = entry? (.str name) es := by
  unfold withIdentity
  dsimp only
  split
  · exact entry?_insertEntry_of_ne h _ es
  · rfl

theorem either_withIdentity {first second : String} (hfirst : first ≠ "id")
    (hsecond : second ≠ "id") (es : List (Scalar × Value)) :
    TypeRef.either first second (withIdentity es) = TypeRef.either first second es := by
  rw [TypeRef.either, TypeRef.either, entry?_withIdentity hfirst, entry?_withIdentity hsecond]

/-- Identity and path are all that preparing adds to the entries with the verb. -/
theorem either_prepared {es prepared : List (Scalar × Value)}
    (h : withPath (withIdentity es) = .ok prepared)
    {first second : String} (hfirstId : first ≠ "id") (hsecondId : second ≠ "id")
    (hfirst : first ≠ "path") (hsecond : second ≠ "path") :
    TypeRef.either first second prepared = TypeRef.either first second es := by
  rcases withPath_cases h with rfl | ⟨v, rfl⟩
  · exact either_withIdentity hfirstId hsecondId es
  · rw [either_insertEntry hfirst hsecond, either_withIdentity hfirstId hsecondId]

theorem entry?_id_prepared {es prepared : List (Scalar × Value)} (h : withPath es = .ok prepared) :
    entry? (.str "id") prepared = entry? (.str "id") es := by
  rcases withPath_cases h with rfl | ⟨v, rfl⟩
  · rfl
  · exact entry?_insertEntry_of_ne (by decide) v es

theorem isNamed_of_mem_mentions {e : Endpoint} (hrequest : ∀ t ∈ e.requestBody, t.IsNamed)
    (hresponse : ∀ t ∈ e.responseBody, t.IsNamed) (hparams : ∀ p ∈ e.allParams, p.type.IsNamed) :
    ∀ t ∈ Chunk.mentions e, t.IsNamed := by
  intro t ht
  rw [Chunk.mentions, List.mem_append, List.mem_append] at ht
  rcases ht with (ht | ht) | ht
  · exact hrequest t (Option.mem_toList.mp ht)
  · exact hresponse t (Option.mem_toList.mp ht)
  · obtain ⟨p, hp, rfl⟩ := List.mem_map.mp ht
    exact hparams p hp

/-- What is read from the prepared entries is the endpoint, field by field. -/
structure IsReadFrom (e : Endpoint) (es : List (Scalar × Value)) : Prop where
  id : Validation.required ["id"] readString es = .ok e.id
  controllerClass : Validation.required ["controllerClass", "controller_class"] readString es =
    .ok e.controllerClass
  methodName : Validation.required ["methodName", "method_name"] readString es = .ok e.methodName
  httpMethod : Validation.required ["httpMethod", "http_method"] readString es = .ok e.httpMethod
  requestBody : defaulted ["requestBody", "request_body"] none (readOptional TypeRef.read) es =
    .ok e.requestBody
  responseBody : defaulted ["responseBody", "response_body"] none (readOptional TypeRef.read) es =
    .ok e.responseBody
  queryParams : defaulted ["queryParams", "query_params"] [] (readList Parameter.read) es =
    .ok e.queryParams
  pathParams : defaulted ["pathParams", "path_params"] [] (readList Parameter.read) es =
    .ok e.pathParams
  headerParams : defaulted ["headerParams", "header_params"] [] (readList Parameter.read) es =
    .ok e.headerParams

theorem isReadFrom_of_readFields {es : List (Scalar × Value)} {e : Endpoint}
    (h : readFields es = .ok e) :
    e.IsReadFrom es := by
  obtain ⟨_, services, h₁, -, rfl⟩ := Checked.seq_eq_ok.mp h
  obtain ⟨_, headerParams, h₂, hheader, rfl⟩ := Checked.seq_eq_ok.mp h₁
  obtain ⟨_, pathParams, h₃, hpath, rfl⟩ := Checked.seq_eq_ok.mp h₂
  obtain ⟨_, queryParams, h₄, hquery, rfl⟩ := Checked.seq_eq_ok.mp h₃
  obtain ⟨_, responseBody, h₅, hresponse, rfl⟩ := Checked.seq_eq_ok.mp h₄
  obtain ⟨_, requestBody, h₆, hrequest, rfl⟩ := Checked.seq_eq_ok.mp h₅
  obtain ⟨_, statusCode, h₇, -, rfl⟩ := Checked.seq_eq_ok.mp h₆
  obtain ⟨_, path, h₈, -, rfl⟩ := Checked.seq_eq_ok.mp h₇
  obtain ⟨_, httpMethod, h₉, hverb, rfl⟩ := Checked.seq_eq_ok.mp h₈
  obtain ⟨_, methodPath, h₁₀, -, rfl⟩ := Checked.seq_eq_ok.mp h₉
  obtain ⟨_, methodName, h₁₁, hmethod, rfl⟩ := Checked.seq_eq_ok.mp h₁₀
  obtain ⟨_, controllerPath, h₁₂, -, rfl⟩ := Checked.seq_eq_ok.mp h₁₁
  obtain ⟨_, controllerClass, h₁₃, hclass, rfl⟩ := Checked.seq_eq_ok.mp h₁₂
  obtain ⟨id, hid, rfl⟩ := Checked.map_eq_ok.mp h₁₃
  exact ⟨hid, hclass, hmethod, hverb, hrequest, hresponse, hquery, hpath, hheader⟩

theorem isConsistent_of_readFields {es : List (Scalar × Value)} {e : Endpoint}
    (h : readFields es = .ok e)
    (hverb : ∀ s, TypeRef.either "httpMethod" "http_method" es = some (str s) → Text.upper s = s)
    (hid : ∀ c m v id, TypeRef.either "controllerClass" "controller_class" es = some (str c) →
      TypeRef.either "methodName" "method_name" es = some (str m) →
      TypeRef.either "httpMethod" "http_method" es = some (str v) →
        entry? (.str "id") es = some (str id) →
      Text.isAllBlank c = false → Text.isAllBlank m = false → Text.isAllBlank v = false →
      id = identity c m v) : e.IsConsistent := by
  have hread := isReadFrom_of_readFields h
  have hverbEntry := either_of_required hread.httpMethod
  constructor
  · exact hverb e.httpMethod hverbEntry
  · exact hid _ _ _ _ (either_of_required hread.controllerClass)
      (either_of_required hread.methodName) hverbEntry
      (entry?_of_required hread.id)
  · have hparam : ∀ p ∈ e.queryParams ++ e.pathParams ++ e.headerParams, p.type.IsNamed := by
      intro p hp
      rw [List.mem_append, List.mem_append] at hp
      rcases hp with (hp | hp) | hp
      · exact forall_mem_of_defaulted_list (fun _ _ => Parameter.isNamed_of_read)
          hread.queryParams p hp
      · exact forall_mem_of_defaulted_list (fun _ _ => Parameter.isNamed_of_read)
          hread.pathParams p hp
      · exact forall_mem_of_defaulted_list (fun _ _ => Parameter.isNamed_of_read)
          hread.headerParams p hp
    apply isNamed_of_mem_mentions
    · exact forall_mem_of_defaulted_optional (fun _ _ => TypeRef.isNamed_of_read) hread.requestBody
    · exact forall_mem_of_defaulted_optional (fun _ _ => TypeRef.isNamed_of_read) hread.responseBody
    · exact hparam

theorem isConsistent_of_read {v : Value} {e : Endpoint} (h : read v = .ok e) : e.IsConsistent := by
  obtain ⟨es, -, h⟩ := exists_of_readModel h
  split at h
  · next prepared hprepared =>
    have hverb :=
      either_prepared hprepared (by decide : "httpMethod" ≠ "id") (by decide : "http_method" ≠ "id")
      (by decide) (by decide)
    have hclass := either_prepared hprepared (by decide : "controllerClass" ≠ "id")
      (by decide : "controller_class" ≠ "id") (by decide) (by decide)
    have hmethod := either_prepared hprepared (by decide : "methodName" ≠ "id")
      (by decide : "method_name" ≠ "id") (by decide) (by decide)
    apply isConsistent_of_readFields h
    · intro s hs
      exact upper_of_withVerb (hverb ▸ hs)
    · intro c m s id hc hm hs hid
      rw [hclass] at hc
      rw [hmethod] at hm
      rw [hverb] at hs
      rw [entry?_id_prepared hprepared] at hid
      exact fun hcBlank hmBlank hsBlank => id_of_withIdentity hc hm hs hcBlank hmBlank hsBlank hid
  · exact absurd h nofun

/-- What is created has the parts and the types that were given, and an identity made from its
parts. -/
structure IsCreatedFrom (e : Endpoint) (controllerClass methodName : Value) (d : Draft) : Prop where
  id : e.id = identity controllerClass.text methodName.text e.httpMethod
  controllerClass : readString controllerClass = .ok e.controllerClass
  methodName : readString methodName = .ok e.methodName
  httpMethod : Text.upper e.httpMethod = e.httpMethod
  requestBody : e.requestBody = d.requestBody
  responseBody : e.responseBody = d.responseBody
  params : e.allParams = d.queryParams ++ d.pathParams ++ d.headerParams

theorem isCreatedFrom_of_create {controllerClass methodName httpMethod : Value} {d : Draft}
    {e : Endpoint} (h : create controllerClass methodName httpMethod d = .ok e) :
    e.IsCreatedFrom controllerClass methodName d := by
  unfold create at h
  split at h
  · exact absurd h nofun
  · exact absurd h nofun
  · exact absurd h nofun
  · next verb path services _ _ _ =>
    obtain ⟨_, controllerServices, h₁, -, rfl⟩ := Checked.seq_eq_ok.mp h
    obtain ⟨_, headerParams, h₂, hheader, rfl⟩ := Checked.seq_eq_ok.mp h₁
    obtain ⟨_, pathParams, h₃, hpath, rfl⟩ := Checked.seq_eq_ok.mp h₂
    obtain ⟨_, queryParams, h₄, hquery, rfl⟩ := Checked.seq_eq_ok.mp h₃
    obtain ⟨_, responseBody, h₅, hresponse, rfl⟩ := Checked.seq_eq_ok.mp h₄
    obtain ⟨_, requestBody, h₆, hrequest, rfl⟩ := Checked.seq_eq_ok.mp h₅
    obtain ⟨_, statusCode, h₇, -, rfl⟩ := Checked.seq_eq_ok.mp h₆
    obtain ⟨_, _, h₈, -, rfl⟩ := Checked.seq_eq_ok.mp h₇
    obtain ⟨_, _, h₉, hverb, rfl⟩ := Checked.seq_eq_ok.mp h₈
    obtain ⟨_, methodPath, h₁₀, -, rfl⟩ := Checked.seq_eq_ok.mp h₉
    obtain ⟨_, method, h₁₁, hmethod, rfl⟩ := Checked.seq_eq_ok.mp h₁₀
    obtain ⟨_, controllerPath, h₁₂, -, rfl⟩ := Checked.seq_eq_ok.mp h₁₁
    obtain ⟨_, controller, h₁₃, hcontroller, rfl⟩ := Checked.seq_eq_ok.mp h₁₂
    obtain ⟨id, hid, rfl⟩ := Checked.map_eq_ok.mp h₁₃
    obtain rfl := Checked.ok.inj hid
    obtain rfl := Checked.ok.inj hverb
    constructor
    · rfl
    · exact Checked.within_eq_ok.mp hcontroller
    · exact Checked.within_eq_ok.mp hmethod
    · exact Text.upper_upper verb
    · exact (Checked.ok.inj hrequest).symm
    · exact (Checked.ok.inj hresponse).symm
    · rw [allParams, ← Checked.ok.inj hquery, ← Checked.ok.inj hpath, ← Checked.ok.inj hheader]

/-- What is created is as good as what is read, if the types that are given are. -/
theorem isConsistent_of_create {controllerClass methodName httpMethod : Value} {d : Draft}
    {e : Endpoint} (h : create controllerClass methodName httpMethod d = .ok e)
    (hrequest : ∀ t ∈ d.requestBody, t.IsNamed) (hresponse : ∀ t ∈ d.responseBody, t.IsNamed)
    (hparams : ∀ p ∈ d.queryParams ++ d.pathParams ++ d.headerParams, p.type.IsNamed) :
    e.IsConsistent := by
  have hcreated := isCreatedFrom_of_create h
  have hclass := eq_str_of_readString hcreated.controllerClass
  have hmethod := eq_str_of_readString hcreated.methodName
  constructor
  · exact hcreated.httpMethod
  · intro _ _ _
    rw [hcreated.id, hclass, hmethod]
    rfl
  · apply isNamed_of_mem_mentions
    · rwa [hcreated.requestBody]
    · rwa [hcreated.responseBody]
    · rwa [hcreated.params]

end Endpoint

end ServiceMigration
