import ServiceMigration.Mapping.Rules
/-!
# One text for a data-transfer type

Generated fields and generated routes mention the same types and resolve them in two ways.  A route
knows the data-transfer types of the module and calls one by the name of its model.  A field does
not know them: it looks every name up in the table of the platform, and a data-transfer type passes
because it is not there.  So the two agree on every data-transfer type but those that share their
simple name with a type of the platform, and `mention_eq_iff` says so for a field of any module.
(Where the platform keeps a name, as with `UUID`, sharing it does no harm.)
-/

namespace ServiceMigration

theorem listOf_inj {a b : String} : listOf a = listOf b ↔ a = b := by
  constructor
  · intro h
    have hchars := congrArg String.toList h
    simp only [listOf, String.toList_append, List.append_assoc, List.append_cancel_left_eq,
      List.append_cancel_right_eq] at hchars
    exact String.toList_injective hchars
  · intro h
    rw [h]

namespace TypeRef

variable {t : TypeRef} {name : String}

/-- A name in the place of what the type is made of. -/
def dressed (t : TypeRef) (name : String) : String :=
  if t.collection.isSome then listOf name else name

theorem dressed_inj {other : String} : t.dressed name = t.dressed other ↔ name = other := by
  unfold dressed
  split
  · exact listOf_inj
  · exact Iff.rfl

/-- Collections and other types are annotated alike, by what they are made of. -/
theorem annotated_eq (t : TypeRef) : t.annotated = t.dressed (annotationOfName t.contentName) := by
  unfold annotated dressed contentName
  cases t.collection <;> simp

end TypeRef

namespace Mapping

variable {known : List String} {t : TypeRef} {name : String}

/-! ### The two ways -/

/-- The table of the platform has another text for the name. -/
def IsTranslated (name : String) : Prop :=
  ∃ text, platformTypes.lookup name = some text ∧ text ≠ name

theorem isTranslated_iff : IsTranslated name ↔ (platformTypes.lookup name).getD name ≠ name := by
  unfold IsTranslated
  cases platformTypes.lookup name <;> simp

instance : Decidable (IsTranslated name) := decidable_of_iff _ isTranslated_iff.symm

/-- Three types of the platform keep their names; all others are translated. -/
theorem isTranslated_iff_mem :
    IsTranslated name ↔ name ∈ platformTypes.map (·.1) ∧ name ∉ ["int", "float", "UUID"] := by
  have hkept : ∀ n ∈ ["int", "float", "UUID"], ¬ IsTranslated n := by decide
  have hother : ∀ n ∈ platformTypes.map (·.1), n ∉ ["int", "float", "UUID"] →
      IsTranslated n := by decide
  constructor
  · intro htranslated
    have hnot := mt (hkept name) (not_not_intro htranslated)
    obtain ⟨text, hlookup, -⟩ := htranslated
    obtain ⟨before, after, htypes, -⟩ := List.lookup_eq_some_iff.mp hlookup
    exact ⟨by simp [htypes], hnot⟩
  · intro ⟨hmem, hnot⟩
    exact hother name hmem hnot

theorem annotationOfName_of_ne_empty (h : simpleName name ≠ "") :
    annotationOfName name = (platformTypes.lookup (simpleName name)).getD (simpleName name) := by
  have hempty : (simpleName name).isEmpty = false := by simpa [Bool.eq_false_iff] using h
  simp [annotationOfName, hempty]

theorem annotationOfName_eq_simpleName_iff (h : simpleName name ≠ "") :
    annotationOfName name = simpleName name ↔ ¬ IsTranslated (simpleName name) := by
  rw [annotationOfName_of_ne_empty h, isTranslated_iff, Decidable.not_not]

/-- A route calls a known type by its simple name. -/
theorem reference_of_mem (h : simpleName t.contentName ∈ known) :
    reference known t = t.dressed (simpleName t.contentName) := by
  simp [reference, TypeRef.dressed, h]

theorem reference_of_not_mem (h : simpleName t.contentName ∉ known) :
    reference known t = t.annotated := by
  simp [reference, h]

/-- What a route says of a type is its annotation, unless the type is known and the platform has
another text for its name. -/
theorem reference_eq_annotated_iff (hname : simpleName t.contentName ≠ "") :
    reference known t = t.annotated ↔
      ¬ (simpleName t.contentName ∈ known ∧ IsTranslated (simpleName t.contentName)) := by
  by_cases hknown : simpleName t.contentName ∈ known
  · rw [reference_of_mem hknown, TypeRef.annotated_eq, TypeRef.dressed_inj, eq_comm,
      annotationOfName_eq_simpleName_iff hname]
    simp [hknown]
  · simp [reference_of_not_mem hknown, hknown]

theorem fieldType_of_not_email {f : Field} (h : f.constraints.email ≠ some true) :
    fieldType f = f.type.annotated := by
  simp [fieldType, h]

/-! ### Over a whole module -/

/-- The generated field at a place among the models. -/
def fieldAt (a : ApiSpec) (i j : Nat) : Option ApiField := a.models[i]?.bind fun r => r.fields[j]?

theorem fieldAt_api (m : ModuleSpec) (i j : Nat) :
    fieldAt (api m) i j = (m.dtos[i]?.bind fun d => d.fields[j]?).map field := by
  cases hd : m.dtos[i]? <;> simp [fieldAt, api, model, hd]

theorem exists_model_of_mem_knownNames {m : ModuleSpec} (h : name ∈ knownNames m.dtos) :
    ∃ r ∈ (api m).models, r.name = name := by
  obtain ⟨d, hd, hname⟩ := List.mem_map.mp h
  exact ⟨model d, List.mem_map_of_mem hd, hname⟩

/-- A route asks and answers with a known type under the name of its model. -/
theorem bodies_of_route {e : Endpoint} (h : simpleName t.contentName ∈ known) :
    (e.requestBody = some t →
        (route known e).requestModel = some (t.dressed (simpleName t.contentName))) ∧
      (e.responseBody = some t →
        (route known e).responseModel = some (t.dressed (simpleName t.contentName))) := by
  constructor
  · intro he
    rw [route, he, Option.map_some, reference_of_mem h]
  · intro he
    rw [route, he, Option.map_some, reference_of_mem h]

/-- **A data-transfer type goes by one text, unless the platform claims its name.**  Take a field
that is no address and whose type, or its element, goes by the simple name of a data-transfer type
of the module.  There is a model of that name, and every route that asks or answers with the type of
the field says so.  The generated field says the same exactly when the platform has no other text
for the name, and says what the platform has otherwise. -/
theorem mention_eq_iff {m : ModuleSpec} {i j : Nat} {d : Dto} {f : Field} (hd : m.dtos[i]? = some d)
    (hf : d.fields[j]? = some f) (hemail : f.constraints.email ≠ some true)
    (hname : simpleName f.type.contentName ≠ "")
    (hknown : simpleName f.type.contentName ∈ knownNames m.dtos) :
    ∃ r ∈ (api m).models, r.name = simpleName f.type.contentName ∧
      ∃ g, fieldAt (api m) i j = some g ∧
        (g.type = f.type.dressed r.name ↔ ¬ IsTranslated r.name) ∧
        (∀ text, platformTypes.lookup r.name = some text → g.type = f.type.dressed text) ∧
        ∀ (k : Nat) (e : Endpoint), m.endpoints[k]? = some e → ∃ s, (api m).routes[k]? = some s ∧
          (e.requestBody = some f.type → s.requestModel = some (f.type.dressed r.name)) ∧
          (e.responseBody = some f.type → s.responseModel = some (f.type.dressed r.name)) := by
  obtain ⟨r, hr, hrname⟩ := exists_model_of_mem_knownNames hknown
  have htype : (field f).type = f.type.dressed (annotationOfName f.type.contentName) := by
    rw [field, fieldType_of_not_email hemail, TypeRef.annotated_eq]
  refine ⟨r, hr, hrname, field f, ?_, ?_, ?_, ?_⟩
  · rw [fieldAt_api, hd, Option.bind_some, hf, Option.map_some]
  · rw [hrname, htype, TypeRef.dressed_inj, annotationOfName_eq_simpleName_iff hname]
  · intro text hlookup
    rw [hrname] at hlookup
    rw [htype, annotationOfName_of_ne_empty hname, hlookup, Option.getD_some]
  · intro k e he
    refine ⟨route (knownNames m.dtos) e, ?_, ?_⟩
    · simp [api, he]
    · rw [hrname]
      exact bodies_of_route hknown

/-- An order of items, some of them packed: the platform has nothing of that name. -/
def orderModule : ModuleSpec where
  projectName := "shop"
  moduleName := "orders"
  endpoints := [{
    id := "Orders#items::GET", controllerClass := "Orders", methodName :=
      "items", httpMethod := "GET"
    path := "/items"
    responseBody :=
      some { name := "List<Item>", collection := some { kind := "List", element := "Item" } } }]
  dtos := [
    { name := "com.shop.Item" },
    { name := "Order"
      fields := [{
        name := "items"
        type :=
          { name := "List<Item>", collection := some { kind := "List", element := "Item" } } }] }]

theorem mention_in_orderModule :
    ∃ g, fieldAt (api orderModule) 1 0 = some g ∧ g.type = "List[Item]" := by
  obtain ⟨r, -, hname, g, hg, hagree, -, -⟩ :=
    mention_eq_iff (m := orderModule) (i := 1) (j := 0) rfl rfl (by decide) (by decide +kernel)
      (by decide +kernel)
  have hitem : r.name = "Item" := by
    rw [hname]
    decide +kernel
  refine ⟨g, hg, ?_⟩
  rw [hagree.mpr (by rw [hitem]; decide), hitem]
  rfl

/-- A party and its leader, a character of the game: to the platform a `Character` is a letter. -/
def partyModule : ModuleSpec where
  projectName := "game"
  moduleName := "party"
  endpoints := [{
    id := "Party#leader::GET", controllerClass := "Party", methodName :=
      "leader", httpMethod := "GET"
    path := "/leader", responseBody := some { name := "com.game.Character" } }]
  dtos := [
    { name := "Character", packageName := "com.game" },
    { name := "Party", packageName := "com.game"
      fields := [{ name := "leader", type := { name := "com.game.Character" } }] }]

/-- The model of the leader is there, the route answers with it, and the field of the party is a
text. -/
theorem leader_is_text :
    (api partyModule).models.map (·.name) = ["Character", "Party"] ∧
      (api partyModule).routes.map (·.responseModel) = [some "Character"] ∧
      (fieldAt (api partyModule) 1 0).map (·.type) = some "str" := by
  decide +kernel

end Mapping

end ServiceMigration
