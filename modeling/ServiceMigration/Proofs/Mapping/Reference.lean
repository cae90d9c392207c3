import ServiceMigration.Proofs.Api.Merge
import ServiceMigration.Proofs.Chunk.Identifier
import ServiceMigration.Proofs.Chunk.Window
/-!
# The mapping of a part of a module

A chunk is mapped with the names of its own data-transfer types, and the module with those of all.
The routes are the same: a type that the module knows and the chunk does not is one whose simple
name the scan for identifiers missed, so the name is not that of a type of the platform, and the
annotation of the type is the name itself.
-/

namespace ServiceMigration.Mapping

open Chunk

variable {c m : ModuleSpec} {t : TypeRef} {name : String}

/-! ### References -/

/-- The scan finds the names of all types of the platform. -/
theorem isIdentifier_of_lookup_platformTypes {result : String}
    (h : platformTypes.lookup name = some result) : isIdentifier name.toList = true := by
  have hall : ∀ e ∈ platformTypes, isIdentifier e.1.toList = true := by decide
  obtain ⟨before, after, htypes, -⟩ := List.lookup_eq_some_iff.mp h
  exact hall (name, result) (by simp [htypes])

theorem annotationOfName_of_not_isIdentifier (hname : simpleName name ≠ "")
    (hid : isIdentifier (simpleName name).toList ≠ true) : annotationOfName name =
      simpleName name := by
  have hempty : (simpleName name).isEmpty = false := by
    simpa [Bool.eq_false_iff] using hname
  have hplatform : platformTypes.lookup (simpleName name) = none :=
    Option.eq_none_iff_forall_ne_some.mpr fun _ h => hid (isIdentifier_of_lookup_platformTypes h)
  simp [annotationOfName, hempty, hplatform]

/-- A type that the scan does not find has the annotation that it would have if it were known. -/
theorem annotated_of_not_isIdentifier (hname : simpleName t.contentName ≠ "")
    (hid : isIdentifier (simpleName t.contentName).toList ≠ true) :
    t.annotated = if t.collection.isSome then listOf (simpleName t.contentName)
      else simpleName t.contentName := by
  unfold TypeRef.annotated
  unfold TypeRef.contentName at hname hid ⊢
  cases hc : t.collection with
  | none =>
    simp only [hc] at hname hid
    simp [annotationOfName_of_not_isIdentifier hname hid]
  | some collection =>
    simp only [hc] at hname hid
    simp [annotationOfName_of_not_isIdentifier hname hid]

theorem knownNames_requiredDtos_subset (endpoints : List Endpoint) (dtos : List Dto) :
    knownNames (requiredDtos endpoints dtos) ⊆ knownNames dtos := by
  intro n hn
  obtain ⟨d, hd, rfl⟩ := List.mem_map.mp hn
  exact List.mem_map_of_mem (mem_of_lookup_byName (lookup_simpleName hd)).1

/-- A type is referred to in a window as in the module. -/
theorem reference_window (h : c.IsWindowOf m) (hnames : ∀ d ∈ m.dtos, simpleName d.name ≠ "")
    (ht : t ∈ c.endpoints.flatMap mentions) :
    reference (knownNames c.dtos) t = reference (knownNames m.dtos) t := by
  by_cases hchunk : simpleName t.contentName ∈ knownNames c.dtos
  · have hmodule : simpleName t.contentName ∈ knownNames m.dtos :=
      knownNames_requiredDtos_subset c.endpoints m.dtos (h.dtos ▸ hchunk)
    simp [reference, hchunk, hmodule]
  · by_cases hmodule : simpleName t.contentName ∈ knownNames m.dtos
    · have hname : simpleName t.contentName ≠ "" := by
        obtain ⟨d, hd, he⟩ := List.mem_map.mp hmodule
        exact he ▸ hnames d hd
      have hid : isIdentifier (simpleName t.contentName).toList ≠ true := by
        intro hid
        have hfound := mem_referencedNames_of_mem_namesIn (simpleName_mem_namesIn hid)
        have hseed : simpleName t.contentName ∈ seedNames c.endpoints :=
          List.mem_flatMap.mpr ⟨t, ht, hfound⟩
        exact hchunk (h.dtos ▸ mem_knownNames_requiredDtos hmodule (.inl hseed))
      simp [reference, hchunk, hmodule, annotated_of_not_isIdentifier hname hid]
    · simp [reference, hchunk, hmodule]

theorem route_window (h : c.IsWindowOf m) (hnames : ∀ d ∈ m.dtos, simpleName d.name ≠ "")
    {e : Endpoint} (he : e ∈ c.endpoints) :
    route (knownNames c.dtos) e = route (knownNames m.dtos) e := by
  have hreference : ∀ t ∈ mentions e,
      reference (knownNames c.dtos) t = reference (knownNames m.dtos) t := fun t ht =>
    reference_window h hnames (List.mem_flatMap.mpr ⟨e, he, ht⟩)
  have hrequest : e.requestBody.map (reference (knownNames c.dtos)) =
      e.requestBody.map (reference (knownNames m.dtos)) :=
    Option.map_congr fun t ht => hreference t (by simp [mentions, ht])
  have hresponse : e.responseBody.map (reference (knownNames c.dtos)) =
      e.responseBody.map (reference (knownNames m.dtos)) :=
    Option.map_congr fun t ht => hreference t (by simp [mentions, ht])
  simp only [route, hrequest, hresponse]

/-! ### Models -/

/-- The first data-transfer type that is declared under a simple name. -/
def firstDeclared (name : String) (dtos : List Dto) : Option Dto :=
  dtos.find? fun d => simpleName d.name == name

theorem firstDeclared_eq_lookup (name : String) (dtos : List Dto) :
    firstDeclared name dtos = (byName dtos).lookup name := by
  rw [lookup_byName, firstDeclared]
  simp only [Bool.beq_comm (a := name)]

theorem firstNamed_map_model (name : String) (dtos : List Dto) :
    ApiSpec.firstNamed name (dtos.map model) = (firstDeclared name dtos).map model := by
  rw [ApiSpec.firstNamed, List.find?_map]
  rfl

/-- What a name means in a window is what it means in the module. -/
theorem firstDeclared_of_window (h : c.IsWindowOf m) {d : Dto}
    (hd : firstDeclared name c.dtos = some d) : firstDeclared name m.dtos = some d := by
  have hname : simpleName d.name = name := by simpa using List.find?_some hd
  have hmem : d ∈ requiredDtos c.endpoints m.dtos := h.dtos ▸ List.mem_of_find?_eq_some hd
  rw [firstDeclared_eq_lookup, ← hname]
  exact lookup_simpleName hmem

end ServiceMigration.Mapping
