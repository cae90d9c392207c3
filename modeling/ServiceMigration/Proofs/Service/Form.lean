import ServiceMigration.Proofs.Json.Order
import ServiceMigration.Service.ModuleSpec
/-!
# The written form of a module

Every part of a module is written as a mapping with fixed keys, in which each of its fields has an
entry.  The form is a document (`isDocument`), and nothing of the part is lost in it (`faithful`).
The metadata of a module are the one mapping whose keys are free; they are left to the text of the
whole.
-/

namespace ServiceMigration

open Json Value

/-! ### Types, fields and data-transfer types -/

theorem TypeRef.isDocument (t : TypeRef) : IsDocument Scalar.IsWord t.toValue := by
  rw [toValue, isDocument_object]
  refine ⟨by simp, ?_⟩
  simp only [List.forall_mem_cons]
  exact ⟨.scalar trivial, .scalar trivial, isDocument_optional trivial (fun _ => .scalar trivial) _,
    isDocument_optional trivial (fun _ => .scalar trivial) _, nofun⟩

theorem TypeRef.isDocument_isJson (t : TypeRef) : IsDocument Scalar.IsJson t.toValue :=
  t.isDocument.mono Scalar.IsWord.isJson

theorem TypeRef.toValue_ne_null (t : TypeRef) : t.toValue ≠ null := nofun

theorem TypeRef.faithful : Faithful TypeRef.toValue := by
  intro a b h
  have hvalues := (sorted_object_eq_iff (by rfl) (by simp)).mp h
  simp only [List.map_cons, List.cons.injEq] at hvalues
  obtain ⟨hname, hmarked, hkind, helement, -⟩ := hvalues
  obtain ⟨name, collection⟩ := a
  obtain ⟨name', collection'⟩ := b
  obtain rfl := faithful_str _ _ hname
  cases collection with
  | none =>
    cases collection' with
    | none => rfl
    | some d => exact absurd (faithful_bool _ _ hmarked) (by simp)
  | some c =>
    cases collection' with
    | none => exact absurd (faithful_bool _ _ hmarked) (by simp)
    | some d =>
      obtain ⟨kind, element⟩ := c
      obtain rfl := faithful_str _ _ hkind
      obtain rfl := faithful_str _ _ helement
      rfl

theorem Constraints.isDocument (c : Constraints) : IsDocument Scalar.IsJson c.toValue := by
  rw [toValue, isDocument_object]
  refine ⟨by simp, ?_⟩
  have hint := isDocument_optional (p := Scalar.IsJson) (f := Value.int) trivial fun _ =>
    .scalar trivial
  have hfloat := isDocument_optional (p := Scalar.IsJson) (f := float) trivial fun _ =>
    .scalar trivial
  have hbool := isDocument_optional (p := Scalar.IsJson) (f := Value.bool) trivial fun _ =>
    .scalar trivial
  have hstr := isDocument_optional (p := Scalar.IsJson) (f := str) trivial fun _ => .scalar trivial
  simp only [List.forall_mem_cons, hint, hfloat, hbool, hstr, true_and]
  exact nofun

theorem Constraints.faithful : Faithful Constraints.toValue := by
  intro a b h
  have hvalues := (sorted_object_eq_iff (by rfl) (by simp)).mp h
  simp only [List.map_cons, List.cons.injEq] at hvalues
  obtain ⟨hminLength, hmaxLength, hmin, hmax, hgt, hge, hlt, hle, hnotBlank, hnotNull, hemail,
    hpattern, -⟩ :=
    hvalues
  cases a
  cases b
  simp only [mk.injEq]
  exact ⟨faithful_optional_int _ _ hminLength, faithful_optional_int _ _ hmaxLength,
    faithful_optional_int _ _ hmin, faithful_optional_int _ _ hmax, faithful_optional_float _ _ hgt,
    faithful_optional_float _ _ hge, faithful_optional_float _ _ hlt,
      faithful_optional_float _ _ hle,
    faithful_optional_bool _ _ hnotBlank, faithful_optional_bool _ _ hnotNull,
    faithful_optional_bool _ _ hemail, faithful_optional_str _ _ hpattern⟩

theorem Field.isDocument (f : Field) : IsDocument Scalar.IsJson f.toValue := by
  rw [toValue, isDocument_object]
  refine ⟨by simp, ?_⟩
  simp only [List.forall_mem_cons]
  exact ⟨.scalar trivial, f.type.isDocument_isJson, f.constraints.isDocument,
    .scalar trivial, isDocument_optional trivial (fun _ => .scalar trivial) _, nofun⟩

theorem Field.faithful : Faithful Field.toValue := by
  intro a b h
  have hvalues := (sorted_object_eq_iff (by rfl) (by simp)).mp h
  simp only [List.map_cons, List.cons.injEq] at hvalues
  obtain ⟨hname, htype, hconstraints, hoptional, hwireName, -⟩ := hvalues
  cases a
  cases b
  simp only [mk.injEq]
  exact ⟨faithful_str _ _ hname, TypeRef.faithful _ _ htype, Constraints.faithful _ _ hconstraints,
    faithful_bool _ _ hoptional, faithful_optional_str _ _ hwireName⟩

theorem Dto.isDocument (d : Dto) : IsDocument Scalar.IsJson d.toValue := by
  rw [toValue, isDocument_object]
  refine ⟨by simp, ?_⟩
  simp only [List.forall_mem_cons]
  exact ⟨.scalar trivial, .scalar trivial, isDocument_list_map fun f _ => f.isDocument,
    .scalar trivial,
    nofun⟩

theorem Dto.faithful : Faithful Dto.toValue := by
  intro a b h
  have hvalues := (sorted_object_eq_iff (by rfl) (by simp)).mp h
  simp only [List.map_cons, List.cons.injEq] at hvalues
  obtain ⟨hname, hpackage, hfields, hrecord, -⟩ := hvalues
  cases a
  cases b
  simp only [mk.injEq]
  exact ⟨faithful_str _ _ hname, faithful_str _ _ hpackage, Field.faithful.list _ _ hfields,
    faithful_bool _ _ hrecord⟩

/-! ### Endpoints -/

theorem Parameter.isDocument (p : Parameter) : IsDocument Scalar.IsWord p.toValue := by
  rw [toValue, isDocument_object]
  refine ⟨by simp, ?_⟩
  simp only [List.forall_mem_cons]
  exact ⟨.scalar trivial, p.type.isDocument,
    isDocument_optional trivial (fun _ => .scalar trivial) _,
    .scalar trivial, isDocument_optional trivial (fun _ => .scalar trivial) _, nofun⟩

theorem Parameter.faithful : Faithful Parameter.toValue := by
  intro a b h
  have hvalues := (sorted_object_eq_iff (by rfl) (by simp)).mp h
  simp only [List.map_cons, List.cons.injEq] at hvalues
  obtain ⟨hname, htype, hrequired, hsource, hoptional, -⟩ := hvalues
  cases a
  cases b
  simp only [mk.injEq]
  exact ⟨faithful_str _ _ hname, TypeRef.faithful _ _ htype, faithful_optional_bool _ _ hrequired,
    faithful_str _ _ hsource, faithful_optional_bool _ _ hoptional⟩

theorem Endpoint.isDocument (e : Endpoint) : IsDocument Scalar.IsJson e.toValue := by
  have hparams : ∀ ps : List Parameter,
      IsDocument Scalar.IsJson (.list (ps.map Parameter.toValue)) :=
    fun ps => isDocument_list_map fun p _ => p.isDocument.mono Scalar.IsWord.isJson
  rw [toValue, isDocument_object]
  refine ⟨by simp, ?_⟩
  simp only [List.forall_mem_cons, hparams, true_and]
  exact ⟨.scalar trivial, .scalar trivial, .scalar trivial, .scalar trivial, .scalar trivial,
    .scalar trivial, .scalar trivial, isDocument_optional trivial (fun _ => .scalar trivial) _,
    isDocument_optional trivial TypeRef.isDocument_isJson _,
    isDocument_optional trivial TypeRef.isDocument_isJson _,
    isDocument_list_map fun _ _ => .scalar trivial, nofun⟩

theorem Endpoint.faithful : Faithful Endpoint.toValue := by
  intro a b h
  have hvalues := (sorted_object_eq_iff (by rfl) (by simp)).mp h
  simp only [List.map_cons, List.cons.injEq] at hvalues
  obtain ⟨hid, hclass, hclassPath, hmethod, hmethodPath, hverb, hpath, hstatus, hrequest, hresponse,
    hquery, hpathParams, hheader, hservices, -⟩ := hvalues
  have htype := TypeRef.faithful.optional TypeRef.toValue_ne_null
  cases a
  cases b
  simp only [mk.injEq]
  exact ⟨faithful_str _ _ hid, faithful_str _ _ hclass, faithful_str _ _ hclassPath,
    faithful_str _ _ hmethod, faithful_str _ _ hmethodPath, faithful_str _ _ hverb,
    faithful_str _ _ hpath, faithful_optional_int _ _ hstatus, htype _ _ hrequest,
      htype _ _ hresponse,
    Parameter.faithful.list _ _ hquery, Parameter.faithful.list _ _ hpathParams,
    Parameter.faithful.list _ _ hheader, faithful_strings _ _ hservices⟩

/-! ### Services and repositories -/

theorem MethodParameter.isDocument (p : MethodParameter) : IsDocument Scalar.IsJson p.toValue := by
  rw [toValue, isDocument_object]
  refine ⟨by simp, ?_⟩
  simp only [List.forall_mem_cons]
  exact ⟨.scalar trivial, p.type.isDocument_isJson, nofun⟩

theorem MethodParameter.faithful : Faithful MethodParameter.toValue := by
  intro a b h
  have hvalues := (sorted_object_eq_iff (by rfl) (by simp)).mp h
  simp only [List.map_cons, List.cons.injEq] at hvalues
  obtain ⟨hname, htype, -⟩ := hvalues
  cases a
  cases b
  simp only [mk.injEq]
  exact ⟨faithful_str _ _ hname, TypeRef.faithful _ _ htype⟩

theorem ServiceMethod.isDocument (m : ServiceMethod) : IsDocument Scalar.IsJson m.toValue := by
  rw [toValue, isDocument_object]
  refine ⟨by simp, ?_⟩
  simp only [List.forall_mem_cons]
  exact ⟨.scalar trivial, isDocument_list_map fun p _ => p.isDocument,
    isDocument_optional trivial TypeRef.isDocument_isJson _, nofun⟩

theorem ServiceMethod.faithful : Faithful ServiceMethod.toValue := by
  intro a b h
  have hvalues := (sorted_object_eq_iff (by rfl) (by simp)).mp h
  simp only [List.map_cons, List.cons.injEq] at hvalues
  obtain ⟨hname, hparams, hreturn, -⟩ := hvalues
  cases a
  cases b
  simp only [mk.injEq]
  exact ⟨faithful_str _ _ hname, MethodParameter.faithful.list _ _ hparams,
    TypeRef.faithful.optional TypeRef.toValue_ne_null _ _ hreturn⟩

theorem Service.isDocument (s : Service) : IsDocument Scalar.IsJson s.toValue := by
  rw [toValue, isDocument_object]
  refine ⟨by simp, ?_⟩
  simp only [List.forall_mem_cons]
  exact ⟨.scalar trivial, .scalar trivial, isDocument_list_map fun m _ => m.isDocument, nofun⟩

theorem Service.faithful : Faithful Service.toValue := by
  intro a b h
  have hvalues := (sorted_object_eq_iff (by rfl) (by simp)).mp h
  simp only [List.map_cons, List.cons.injEq] at hvalues
  obtain ⟨hname, hpackage, hmethods, -⟩ := hvalues
  cases a
  cases b
  simp only [mk.injEq]
  exact ⟨faithful_str _ _ hname, faithful_str _ _ hpackage,
    ServiceMethod.faithful.list _ _ hmethods⟩

theorem Repository.isDocument (r : Repository) : IsDocument Scalar.IsJson r.toValue := by
  rw [toValue, isDocument_object]
  refine ⟨by simp, ?_⟩
  simp only [List.forall_mem_cons]
  exact ⟨.scalar trivial, .scalar trivial, nofun⟩

theorem Repository.faithful : Faithful Repository.toValue := by
  intro a b h
  have hvalues := (sorted_object_eq_iff (by rfl) (by simp)).mp h
  simp only [List.map_cons, List.cons.injEq] at hvalues
  obtain ⟨hname, hpackage, -⟩ := hvalues
  cases a
  cases b
  simp only [mk.injEq]
  exact ⟨faithful_str _ _ hname, faithful_str _ _ hpackage⟩

end ServiceMigration
