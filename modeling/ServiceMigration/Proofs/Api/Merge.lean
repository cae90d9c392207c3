import ServiceMigration.Api.Merge
import ServiceMigration.Proofs.Service.FirstItems
/-!
# The models of a merge

Models are put in one by one by their names, and one whose name is taken is dropped.  So a merge
keeps the first model of every name (`ApiSpec.models_merge`), and it does not matter whether
fragments are merged at once or in groups whose merges are then merged (`ApiSpec.merge_groups`).
-/

namespace ServiceMigration.ApiSpec

def firstNamed (name : String) (xs : List ApiModel) : Option ApiModel :=
  xs.find? fun x => x.name == name

/-- Of the models that were seen, those are kept that are the first of their name. -/
structure KeepsFirst (seen kept : List ApiModel) : Prop where
  nodup : (kept.map (·.name)).Nodup
  first : ∀ x ∈ kept, firstNamed x.name seen = some x
  named : ∀ x ∈ seen, x.name ∈ kept.map (·.name)

theorem insertModel_eq (models : List ApiModel) (x : ApiModel) :
    insertModel models x = (insertFirst ApiModel.name models x).1 := by
  unfold insertModel insertFirst
  split <;> rfl

theorem unionModels_eq (models more : List ApiModel) :
    unionModels models more = insertAll ApiModel.name models more := by
  induction more generalizing models with
  | nil => rfl
  | cons x rest ih =>
    rw [insertAll_cons, ← insertModel_eq]
    exact ih (insertModel models x)

theorem models_merge (parts : List ApiSpec) :
    (merge parts).models = firsts ApiModel.name (parts.flatMap models) := by
  rw [← insertAll_nil_eq, ← unionModels_eq]
  rfl

/-- A merge keeps the first model of every name. -/
theorem keepsFirst_merge (parts : List ApiSpec) :
    KeepsFirst (parts.flatMap models) (merge parts).models := by
  rw [models_merge]
  constructor
  · exact nodup_firsts _
  · intro x hx
    rw [firstNamed, ← find?_firsts]
    exact find?_of_mem (nodup_firsts _) hx
  · intro x hx
    exact mem_map_firsts.mpr (List.mem_map_of_mem hx)

/-- A model of a merge is one of a fragment, the first of its name there. -/
theorem exists_part_of_mem_models {parts : List ApiSpec} {x : ApiModel}
    (h : x ∈ (merge parts).models) :
    ∃ part ∈ parts, firstNamed x.name part.models = some x := by
  have hfirst := (keepsFirst_merge parts).first x h
  rw [firstNamed, List.find?_flatMap] at hfirst
  exact List.exists_of_findSome?_eq_some hfirst

/-- Fragments whose routes are those of some items make up the routes of all items. -/
theorem routes_merge_map {ι α : Type} {parts : List ι} {answer : ι → ApiSpec} {items : ι → List α}
    {route : α → ApiRoute} (h : ∀ part ∈ parts, (answer part).routes = (items part).map route) :
    (merge (parts.map answer)).routes = (parts.flatMap items).map route :=
  calc (parts.map answer).flatMap routes
      = parts.flatMap fun part => (answer part).routes := List.flatMap_map _ _ _
    _ = parts.flatMap fun part => (items part).map route := List.flatMap_congr h
    _ = (parts.flatMap items).map route := List.map_flatMap.symm

/-- What the fragments of all groups have, group by group or at once. -/
theorem flatten_map_flatMap {β : Type} (f : ApiSpec → List β) (groups : List (List ApiSpec)) :
    (groups.map (·.flatMap f)).flatten = groups.flatten.flatMap f := by
  induction groups with
  | nil => rfl
  | cons group rest ih =>
    rw [List.map_cons, List.flatten_cons, List.flatten_cons, List.flatMap_append, ih]

/-- The models of merged groups are those of all fragments. -/
theorem models_merge_map_merge (groups : List (List ApiSpec)) :
    (merge (groups.map merge)).models = (merge groups.flatten).models := by
  have hmodels : (groups.map merge).flatMap models =
      (groups.map (·.flatMap models)).flatMap (firsts ApiModel.name) := by
    rw [List.flatMap_map, List.flatMap_map]
    exact List.flatMap_congr fun group _ => models_merge group
  rw [models_merge, models_merge, hmodels, firsts_flatMap_firsts, flatten_map_flatMap]

/-- Groups of fragments may be merged on their own before they are merged.  In every merge each name
that a model has is there once, in the order in which the names occur first, and means the first
model of that name; and all routes are there, end to end. -/
theorem merge_groups (groups : List (List ApiSpec)) (parts : List ApiSpec) :
    merge (groups.map merge) = merge groups.flatten ∧
    ((merge parts).models.map (·.name)).Nodup ∧
    (merge parts).models.map (·.name) = ((parts.flatMap models).map (·.name)).eraseDups ∧
    (∀ name, firstNamed name (merge parts).models = firstNamed name (parts.flatMap models)) ∧
    (∀ name, name ∈ (merge parts).models.map (·.name) ↔
      ∃ part ∈ parts, name ∈ part.models.map (·.name)) ∧
    (merge parts).routes = parts.flatMap routes := by
  refine ⟨?_, ?_, ?_, ?_, ?_, rfl⟩
  · have hroutes : (merge (groups.map merge)).routes = (merge groups.flatten).routes := by
      change (groups.map merge).flatMap routes = groups.flatten.flatMap routes
      rw [List.flatMap_map, ← flatten_map_flatMap]
      rfl
    calc merge (groups.map merge)
        = ⟨(merge (groups.map merge)).models, (merge (groups.map merge)).routes⟩ := rfl
      _ = ⟨(merge groups.flatten).models, (merge groups.flatten).routes⟩ := by
        rw [models_merge_map_merge, hroutes]
  · exact (keepsFirst_merge parts).nodup
  · rw [models_merge]
    exact map_firsts ApiModel.name _
  · intro name
    rw [models_merge]
    exact find?_firsts _ name
  · intro name
    rw [models_merge]
    refine mem_map_firsts.trans ?_
    rw [List.map_flatMap, List.mem_flatMap]

end ServiceMigration.ApiSpec
