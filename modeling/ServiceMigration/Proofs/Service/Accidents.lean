import ServiceMigration.Proofs.Service.Accumulation
import ServiceMigration.Proofs.Service.Identity
import ServiceMigration.Proofs.Service.Reading
/-!
# Payloads that end in an accident

What is wrong with a payload is reported as issues, with two exceptions.  Under one of the four keys
there may be a value that cannot be gone through, and an endpoint without a path may have a part of
one that is no text.  Then reading ends in an accident (`Analysis.ofEntries_eq_accident_iff`), if
nothing before it was wrong.
-/

namespace ServiceMigration

open Validation Value

/-! ### Endpoints -/

namespace Endpoint

variable {es : List (Scalar × Value)} {a : Accident} {o controllerPath methodPath : Option Value}
  {v : Value}

/-- A value of which no part of a path can be made: it is no text, and does not count as absent. -/
def IsOddPart (o : Option Value) : Prop := ∃ v ∈ o, v.isFalsy = false ∧ v.asString? = none

/-- The path has to be joined from parts, and one of them is odd. -/
def HasOddPath (es : List (Scalar × Value)) : Prop :=
  entry? (.str "path") es = none ∧
    (IsOddPart (TypeRef.either "controllerPath" "controller_path" es) ∨
      IsOddPart (TypeRef.either "methodPath" "method_path" es))

theorem pathPart_eq_error_iff : pathPart o = .error a ↔ a = .lacksParts ∧ IsOddPart o := by
  unfold pathPart
  split
  · simp [IsOddPart]
  · simp [IsOddPart, asString?]
  · next v htext =>
    have hnone : v.asString? = none := by
      unfold asString?
      split
      · next s => exact absurd rfl (htext s)
      · rfl
    cases hfalsy : v.isFalsy with
    | true => simp [IsOddPart, hfalsy]
    | false =>
      have hodd : IsOddPart (some v) := ⟨v, rfl, hfalsy, hnone⟩
      simp [hodd, eq_comm]

theorem joinedPath_eq_error_iff : joinedPath controllerPath methodPath = .error a ↔
    a = .lacksParts ∧ (IsOddPart controllerPath ∨ IsOddPart methodPath) := by
  unfold joinedPath
  split
  · next b hb =>
    obtain ⟨rfl, hodd⟩ := pathPart_eq_error_iff.mp hb
    simp [hodd, eq_comm]
  · next c hc =>
    have hregular : ¬ IsOddPart controllerPath := by
      intro hodd
      exact absurd (hc.symm.trans (pathPart_eq_error_iff.mpr ⟨rfl, hodd⟩)) nofun
    rw [or_iff_right hregular, ← pathPart_eq_error_iff]
    split
    · next b hb => rw [hb]; simp
    · next m hm => rw [hm]; simp

theorem withPath_eq_error_iff : withPath es = .error a ↔ a = .lacksParts ∧ HasOddPath es := by
  unfold withPath HasOddPath
  cases hpath : entry? (.str "path") es with
  | some v => simp
  | none =>
    rw [and_iff_right rfl, ← joinedPath_eq_error_iff, if_neg (by simp)]
    split
    · next path hpath => rw [hpath]; simp
    · next b hb => rw [hb]; simp

/-- To put verb and identity in leaves the parts of the path. -/
theorem hasOddPath_withIdentity_withVerb : HasOddPath (withIdentity (withVerb es)) ↔
    HasOddPath es := by
  unfold HasOddPath
  rw [entry?_withIdentity (by decide), entry?_withVerb (by decide) (by decide),
    either_withIdentity (by decide) (by decide),
      either_withVerb (by decide) (by decide) (by decide) (by decide),
    either_withIdentity (by decide) (by decide),
      either_withVerb (by decide) (by decide) (by decide) (by decide)]

theorem isRegular_readFields (es : List (Scalar × Value)) : (readFields es).IsRegular := by
  have htext : ∀ names, (Validation.required names readString es).IsRegular := by
    intro names
    exact isRegular_required isRegular_readString
  have hpart : ∀ names, (defaulted names "" readString es).IsRegular := by
    intro names
    exact isRegular_defaulted isRegular_readString
  have htype : ∀ names, (defaulted names none (readOptional TypeRef.read) es).IsRegular := by
    intro names
    exact isRegular_defaulted (isRegular_readOptional TypeRef.isRegular_read)
  have hparams : ∀ names, (defaulted names [] (readList Parameter.read) es).IsRegular := by
    intro names
    exact isRegular_defaulted (isRegular_readList Parameter.isRegular_read)
  have hstatus :
    (defaulted ["statusCode", "status_code"] none (readOptional readInt) es).IsRegular :=
    isRegular_defaulted (isRegular_readOptional isRegular_readInt)
  have hservices :
    (defaulted ["controllerServices", "controller_services"] [] (readList readString)
      es).IsRegular :=
    isRegular_defaulted (isRegular_readList isRegular_readString)
  exact ((((((((((((((htext _).map _).seq (htext _)).seq (hpart _)).seq (htext _)).seq
    (hpart _)).seq (htext _)).seq (htext _)).seq hstatus).seq (htype _)).seq (htype _)).seq
    (hparams _)).seq (hparams _)).seq (hparams _)).seq hservices

theorem read_eq_accident_iff :
    read v = .accident a ↔ a = .lacksParts ∧ ∃ es, v = .dict es ∧ HasOddPath es := by
  cases v with
  | dict es =>
    have hread : read (.dict es) = .accident a ↔
        withPath (withIdentity (withVerb es)) = .error a := by
      rw [read, readModel]
      split
      · next prepared hprepared =>
        rw [hprepared]
        apply iff_of_false
        · exact isRegular_readFields prepared a
        · simp
      · next b hb =>
        rw [hb]
        simp
    rw [hread, withPath_eq_error_iff, hasOddPath_withIdentity_withVerb]
    simp
  | scalar | list =>
    apply iff_of_false
    · exact isRegular_fail (.notModel "EndpointSpec") a
    · rintro ⟨-, es, h, -⟩
      cases h

end Endpoint

/-! ### Other items -/

theorem Constraints.isRegular_read (v : Value) : (read v).IsRegular := by
  apply isRegular_readModel
  intro es
  have hint : ∀ names, (defaulted names none (readOptional readInt) es).IsRegular := by
    intro names
    exact isRegular_defaulted (isRegular_readOptional isRegular_readInt)
  have hfloat : ∀ names, (defaulted names none (readOptional readFloat) es).IsRegular := by
    intro names
    exact isRegular_defaulted (isRegular_readOptional isRegular_readFloat)
  have hbool : ∀ names, (defaulted names none (readOptional readBool) es).IsRegular := by
    intro names
    exact isRegular_defaulted (isRegular_readOptional isRegular_readBool)
  exact ((((((((((((hint _).map _).seq (hint _)).seq (hint _)).seq (hint _)).seq (hfloat _)).seq
    (hfloat _)).seq
    (hfloat _)).seq (hfloat _)).seq (hbool _)).seq (hbool _)).seq (hbool _)).seq
    (isRegular_defaulted (isRegular_readOptional isRegular_readString))

theorem Field.isRegular_read (v : Value) : (read v).IsRegular := by
  have hconstraints : ∀ v, (readConstraints v).IsRegular := by
    intro v
    unfold readConstraints
    split
    · exact isRegular_ok _
    · exact Constraints.isRegular_read _
  exact isRegular_readModel (fun _ =>
    (((((isRegular_required isRegular_readString).map _).seq
      (isRegular_required TypeRef.isRegular_read)).seq
      (isRegular_defaulted hconstraints)).seq (isRegular_defaulted isRegular_readBool)).seq
      (isRegular_defaulted (isRegular_readOptional isRegular_readString))) v

theorem Dto.isRegular_read (v : Value) : (read v).IsRegular :=
  isRegular_readModel (fun _ =>
    ((((isRegular_required isRegular_readString).map _).seq
      (isRegular_defaulted isRegular_readString)).seq
      (isRegular_defaulted (isRegular_readList Field.isRegular_read))).seq
      (isRegular_defaulted isRegular_readBool)) v

theorem MethodParameter.isRegular_read (v : Value) : (read v).IsRegular :=
  isRegular_readModel (fun _ =>
    ((isRegular_required isRegular_readString).map _).seq
      (isRegular_required TypeRef.isRegular_read)) v

theorem ServiceMethod.isRegular_read (v : Value) : (read v).IsRegular :=
  isRegular_readModel (fun _ =>
    (((isRegular_required isRegular_readString).map _).seq
      (isRegular_defaulted (isRegular_readList MethodParameter.isRegular_read))).seq
      (isRegular_defaulted (isRegular_readOptional TypeRef.isRegular_read))) v

theorem Service.isRegular_read (v : Value) : (read v).IsRegular :=
  isRegular_readModel (fun _ =>
    (((isRegular_required isRegular_readString).map _).seq
      (isRegular_defaulted isRegular_readString)).seq
      (isRegular_defaulted (isRegular_readList ServiceMethod.isRegular_read))) v

theorem Repository.isRegular_read (v : Value) : (read v).IsRegular :=
  isRegular_readModel (fun _ =>
    ((isRegular_required isRegular_readString).map _).seq
      (isRegular_defaulted isRegular_readString)) v

/-! ### Payloads -/

namespace Analysis

variable {α : Type} {read : Value → Checked α} {model key : String}
  {payload : List (Scalar × Value)} {items : List Value} {a : Accident} {x : Error}

/-- Under the key there is a number, a time or a true value, so nothing that can be gone through. -/
def IsUncountable (payload : List (Scalar × Value)) (key : String) : Prop :=
  ∃ s, entry? (.str key) payload = some (.scalar s) ∧ isFalsy (.scalar s) = false ∧
  asString? (.scalar s) = none

/-- All items under the key can be read; nothing counts as no items. -/
def ReadsAll (read : Value → Checked α) (payload : List (Scalar × Value)) (key : String) : Prop :=
  ∃ items, payloadItems payload key = .ok items ∧ ∀ item ∈ items, ∃ y, read item = .ok y

/-- The accidents in reading a payload: everything before can be read, kind by kind and endpoint by
endpoint. -/
inductive Trips (payload : List (Scalar × Value)) : Accident → Prop where
  | endpoints (h : IsUncountable payload "endpoints") : Trips payload .notIterable
  | endpoint {before after : List Value} {es : List (Scalar × Value)}
      (hitems : payloadItems payload "endpoints" = .ok (before ++ .dict es :: after))
      (hbefore : ∀ item ∈ before, ∃ e, Endpoint.read item = .ok e) (h : Endpoint.HasOddPath es) :
      Trips payload .lacksParts
  | dtos (hendpoints : ReadsAll Endpoint.read payload "endpoints")
      (h : IsUncountable payload "dtos") :
      Trips payload .notIterable
  | services (hendpoints : ReadsAll Endpoint.read payload "endpoints")
      (hdtos : ReadsAll Dto.read payload "dtos")
      (h : IsUncountable payload "services") : Trips payload .notIterable
  | repositories (hendpoints : ReadsAll Endpoint.read payload "endpoints")
      (hdtos : ReadsAll Dto.read payload "dtos")
      (hservices : ReadsAll Service.read payload "services")
      (h : IsUncountable payload "repositories") : Trips payload .notIterable

theorem bind_eq_error_iff {ε β γ : Type} {x : Except ε β} {f : β → Except ε γ} {e : ε} :
    (x >>= f) = .error e ↔ x = .error e ∨ ∃ y, x = .ok y ∧ f y = .error e := by
  cases x with
  | ok y => simp [ok_bind]
  | error e' =>
    have hbind : (Except.error e' >>= f) = .error e' := rfl
    simp [hbind]

/-- Of several items, the first with an error decides. -/
theorem mapM_eq_error_iff {ε β : Type} {f : Value → Except ε β} {e : ε} :
    items.mapM f = .error e ↔ ∃ before item after, items = before ++ item :: after ∧
      (∀ other ∈ before, ∃ y, f other = .ok y) ∧ f item = .error e := by
  induction items with
  | nil =>
    apply iff_of_false
    · exact nofun
    · rintro ⟨before, item, after, h, -⟩
      exact absurd h (by simp)
  | cons first rest ih =>
    rw [List.mapM_cons, bind_eq_error_iff]
    constructor
    · rintro (hfirst | ⟨y, hy, hrest⟩)
      · refine ⟨[], first, rest, rfl, ?_, hfirst⟩
        intro other hother
        exact absurd hother List.not_mem_nil
      · rcases bind_eq_error_iff.mp hrest with hrest | ⟨_, _, h⟩
        · obtain ⟨before, item, after, rfl, hbefore, hitem⟩ := ih.mp hrest
          exact ⟨first :: before, item, after, rfl, List.forall_mem_cons.mpr ⟨⟨y, hy⟩, hbefore⟩,
            hitem⟩
        · exact absurd h nofun
    · rintro ⟨before, item, after, hsplit, hbefore, hitem⟩
      cases before with
      | nil =>
        obtain ⟨rfl, rfl⟩ := List.cons.inj hsplit
        exact .inl hitem
      | cons other before =>
        obtain ⟨rfl, rfl⟩ := List.cons.inj hsplit
        obtain ⟨⟨y, hy⟩, hbefore⟩ := List.forall_mem_cons.mp hbefore
        refine .inr ⟨y, hy, ?_⟩
        rw [ih.mpr ⟨before, item, after, rfl, hbefore, hitem⟩]
        rfl

theorem exists_mapM_eq_ok_iff {ε β : Type} {f : Value → Except ε β} :
    (∃ ys, items.mapM f = .ok ys) ↔ ∀ item ∈ items, ∃ y, f item = .ok y := by
  induction items with
  | nil =>
    apply iff_of_true
    · exact ⟨[], rfl⟩
    · intro item hitem
      exact absurd hitem List.not_mem_nil
  | cons first rest ih =>
    rw [List.forall_mem_cons, ← ih, List.mapM_cons]
    constructor
    · rintro ⟨ys, h⟩
      obtain ⟨y, hy, h⟩ := bind_eq_ok h
      obtain ⟨ys', hys', -⟩ := bind_eq_ok h
      exact ⟨⟨y, hy⟩, ys', hys'⟩
    · rintro ⟨⟨y, hy⟩, ys, hys⟩
      exact ⟨y :: ys, by rw [hy, hys]; rfl⟩

theorem exists_itemOf_eq_ok_iff {c : Checked α} : (∃ y, itemOf model c = .ok y) ↔
    ∃ y, c = .ok y := by
  constructor
  · rintro ⟨y, h⟩
    exact ⟨y, itemOf_eq_ok h⟩
  · rintro ⟨y, rfl⟩
    exact ⟨y, rfl⟩

theorem itemOf_eq_accident_iff {c : Checked α} : itemOf model c = .error (.accident a) ↔
    c = .accident a := by
  cases c <;> simp [itemOf]

theorem itemsOrNone_eq_error_iff {v : Value} : Endpoint.itemsOrNone v = .error a ↔
    a = .notIterable ∧ ∃ s, v = .scalar s ∧ v.isFalsy = false ∧ v.asString? = none := by
  unfold Endpoint.itemsOrNone
  cases hfalsy : v.isFalsy with
  | true =>
    apply iff_of_false
    · exact nofun
    · rintro ⟨-, s, -, hpresent, -⟩
      exact absurd hpresent nofun
  | false =>
    rw [if_neg Bool.false_ne_true]
    cases v with
    | list | dict =>
      apply iff_of_false
      · exact nofun
      · rintro ⟨-, s, h, -⟩
        exact absurd h nofun
    | scalar s =>
      cases s with
      | str =>
        apply iff_of_false
        · exact nofun
        · rintro ⟨-, s, -, -, htext⟩
          exact absurd htext nofun
      | null | bool | int | float | moment =>
        constructor
        · intro h
          exact ⟨(Except.error.inj h).symm, _, rfl, rfl, rfl⟩
        · rintro ⟨rfl, -⟩
          rfl

theorem payloadItems_eq_error_iff :
    payloadItems payload key = .error x ↔
      x = .accident .notIterable ∧ IsUncountable payload key := by
  unfold payloadItems IsUncountable
  cases entry? (.str key) payload with
  | none => simp
  | some v =>
    have hmap : (Endpoint.itemsOrNone v).mapError Error.accident = .error x ↔
        ∃ a, Endpoint.itemsOrNone v = .error a ∧ x = .accident a := by
      cases Endpoint.itemsOrNone v <;> simp [Except.mapError, eq_comm]
    simp only [hmap, itemsOrNone_eq_error_iff]
    constructor
    · rintro ⟨_, ⟨rfl, s, rfl, hpresent, htext⟩, rfl⟩
      exact ⟨rfl, s, rfl, hpresent, htext⟩
    · rintro ⟨rfl, s, hs, hpresent, htext⟩
      obtain rfl := Option.some.inj hs
      exact ⟨.notIterable, ⟨rfl, s, rfl, hpresent, htext⟩, rfl⟩

theorem exists_readItems_iff : (∃ ys, readItems model read payload key = .ok ys) ↔
    ReadsAll read payload key := by
  unfold ReadsAll readItems
  cases payloadItems payload key with
  | error e =>
    apply iff_of_false
    · rintro ⟨ys, h⟩
      exact absurd h nofun
    · rintro ⟨items, h, -⟩
      exact absurd h nofun
  | ok items =>
    simp only [ok_bind, exists_mapM_eq_ok_iff, exists_itemOf_eq_ok_iff, Except.ok.injEq,
      exists_eq_left']

theorem readItems_eq_accident_iff : readItems model read payload key = .error (.accident a) ↔
    (a = .notIterable ∧ IsUncountable payload key) ∨ ∃ before item after,
      payloadItems payload key = .ok (before ++ item :: after) ∧
      (∀ other ∈ before, ∃ y, read other = .ok y) ∧
        read item = .accident a := by
  rw [readItems, bind_eq_error_iff, payloadItems_eq_error_iff]
  simp only [mapM_eq_error_iff, itemOf_eq_accident_iff, exists_itemOf_eq_ok_iff,
    Error.accident.injEq]
  apply or_congr_right
  constructor
  · rintro ⟨_, hitems, before, item, after, rfl, hbefore, h⟩
    exact ⟨before, item, after, hitems, hbefore, h⟩
  · rintro ⟨before, item, after, hitems, hbefore, h⟩
    exact ⟨_, hitems, before, item, after, rfl, hbefore, h⟩

/-- A reader without accidents leaves only a value that cannot be gone through. -/
theorem readItems_eq_accident_iff_of_isRegular (h : ∀ v, (read v).IsRegular) :
    readItems model read payload key = .error (.accident a) ↔
      a = .notIterable ∧ IsUncountable payload key := by
  rw [readItems_eq_accident_iff, or_iff_left]
  rintro ⟨-, item, -, -, -, haccident⟩
  exact h item a haccident

theorem readItems_endpoints_eq_accident_iff :
    readItems "EndpointSpec" Endpoint.read payload "endpoints" = .error (.accident a) ↔
      (a = .notIterable ∧ IsUncountable payload "endpoints") ∨ (a = .lacksParts ∧ ∃ before es after,
        payloadItems payload "endpoints" = .ok (before ++ .dict es :: after) ∧
          (∀ item ∈ before, ∃ e, Endpoint.read item = .ok e) ∧ Endpoint.HasOddPath es) := by
  rw [readItems_eq_accident_iff]
  apply or_congr_right
  constructor
  · rintro ⟨before, item, after, hitems, hbefore, h⟩
    obtain ⟨ha, es, rfl, hpath⟩ := Endpoint.read_eq_accident_iff.mp h
    exact ⟨ha, before, es, after, hitems, hbefore, hpath⟩
  · rintro ⟨ha, before, es, after, hitems, hbefore, hpath⟩
    exact ⟨before, .dict es, after, hitems, hbefore,
      Endpoint.read_eq_accident_iff.mpr ⟨ha, es, rfl, hpath⟩⟩

/-- Reading a payload ends in an accident exactly if it trips. -/
theorem ofEntries_eq_accident_iff : (ofEntries payload).2 = .error (.accident a) ↔
    Trips payload a := by
  have hlast : ∀ endpoints dtos services repositories,
      (pure (empty.merge ⟨endpoints, dtos, services, repositories⟩) : Except Error Analysis) ≠
        .error (.accident a) := by
    intro endpoints dtos services repositories
    exact nofun
  simp only [snd_ofEntries, bind_eq_error_iff, readItems_endpoints_eq_accident_iff,
    readItems_eq_accident_iff_of_isRegular Dto.isRegular_read,
    readItems_eq_accident_iff_of_isRegular Service.isRegular_read,
    readItems_eq_accident_iff_of_isRegular Repository.isRegular_read]
  constructor
  · rintro ((⟨rfl, h⟩ | ⟨rfl, before, es, after, hitems, hbefore, hpath⟩) | ⟨es, hes,
      ⟨rfl, h⟩ | ⟨ds, hds, ⟨rfl, h⟩ |
      ⟨ss, hss, ⟨rfl, h⟩ | ⟨rs, -, h⟩⟩⟩⟩)
    · exact .endpoints h
    · exact .endpoint hitems hbefore hpath
    · exact .dtos (exists_readItems_iff.mp ⟨es, hes⟩) h
    · exact .services (exists_readItems_iff.mp ⟨es, hes⟩) (exists_readItems_iff.mp ⟨ds, hds⟩) h
    · exact .repositories (exists_readItems_iff.mp ⟨es, hes⟩) (exists_readItems_iff.mp ⟨ds, hds⟩)
        (exists_readItems_iff.mp ⟨ss, hss⟩) h
    · exact absurd h (hlast es ds ss rs)
  · rintro (h | ⟨hitems, hbefore, hpath⟩ | ⟨hendpoints, h⟩ | ⟨hendpoints, hdtos, h⟩ |
      ⟨hendpoints, hdtos, hservices, h⟩)
    · exact .inl (.inl ⟨rfl, h⟩)
    · exact .inl (.inr ⟨rfl, _, _, _, hitems, hbefore, hpath⟩)
    · obtain ⟨es, hes⟩ := exists_readItems_iff.mpr hendpoints
      exact .inr ⟨es, hes, .inl ⟨rfl, h⟩⟩
    · obtain ⟨es, hes⟩ := exists_readItems_iff.mpr hendpoints
      obtain ⟨ds, hds⟩ := exists_readItems_iff.mpr hdtos
      exact .inr ⟨es, hes, .inr ⟨ds, hds, .inl ⟨rfl, h⟩⟩⟩
    · obtain ⟨es, hes⟩ := exists_readItems_iff.mpr hendpoints
      obtain ⟨ds, hds⟩ := exists_readItems_iff.mpr hdtos
      obtain ⟨ss, hss⟩ := exists_readItems_iff.mpr hservices
      exact .inr ⟨es, hes, .inr ⟨ds, hds, .inr ⟨ss, hss, .inl ⟨rfl, h⟩⟩⟩⟩

end Analysis

end ServiceMigration
