import ServiceMigration.Proofs.Validation.Reading
import ServiceMigration.Service.Endpoint
/-!
# Types and parameters, read and written

A type that was read has a name and a kind that are not blank; where its element is not blank
either, it is written so that reading gives it back (`TypeRef.read_toValue`).
-/

namespace ServiceMigration

open Validation Value

namespace TypeRef

/-- The names within a type are not blank. -/
structure IsSettled (t : TypeRef) : Prop where
  name : Text.isAllBlank t.name = false
  kind : ∀ c ∈ t.collection, Text.isAllBlank c.kind = false
  element : ∀ c ∈ t.collection, Text.isAllBlank c.element = false

/-- What every type that was read has: a name, and a kind where it is a collection. -/
structure IsNamed (t : TypeRef) : Prop where
  name : Text.isAllBlank t.name = false
  kind : ∀ c ∈ t.collection, Text.isAllBlank c.kind = false

/-- If the type is a collection, its element is not blank. -/
def HasElement (t : TypeRef) : Prop := ∀ c ∈ t.collection, Text.isAllBlank c.element = false

theorem IsNamed.isSettled {t : TypeRef} (h : t.IsNamed) (helement : t.HasElement) : t.IsSettled :=
  ⟨h.name, h.kind, helement⟩

theorem presentText?_str {s : String} (h : Text.isAllBlank s = false) :
    presentText? (some (str s)) = some s := by
  simp [presentText?, str, h]

theorem isAllBlank_of_presentText? {o : Option Value} {s : String} (h : presentText? o = some s) :
    Text.isAllBlank s = false := by
  unfold presentText? at h
  split at h
  · split at h
    · exact absurd h (by simp)
    · next hblank => rw [← Option.some.inj h]; simpa using hblank
  · exact absurd h (by simp)

theorem isAllBlank_simple (s : String) : Text.isAllBlank (simple s).name = false := by
  unfold simple
  split
  · decide
  · next h => simpa using h

theorem isAllBlank_append_mark (front back : String) :
    Text.isAllBlank (front ++ "<" ++ back) = false := by
  have hmark : Text.isBlank '<' = false := by decide
  simp [Text.isAllBlank, String.toList_append, hmark]

/-- What is read of a collection has a kind and a name, given or made up. -/
theorem isAllBlank_of_collectionFrom {name kind element : Option Value} {t : TypeRef}
    (h : collectionFrom name kind element = .ok t) :
    Text.isAllBlank t.name = false ∧ ∀ c ∈ t.collection, Text.isAllBlank c.kind = false := by
  rw [collectionFrom, Checked.map_eq_ok] at h
  obtain ⟨e, -, rfl⟩ := h
  constructor
  · cases hname : presentText? name with
    | none =>
      rw [Option.getD_none, String.append_assoc]
      exact isAllBlank_append_mark _ _
    | some n => exact isAllBlank_of_presentText? hname
  · intro c hc
    obtain rfl := Option.mem_some.mp hc
    cases hkind : presentText? kind with
    | none => exact show Text.isAllBlank "List" = false by decide
    | some k => exact isAllBlank_of_presentText? hkind

theorem isNamed_simple (s : String) : (simple s).IsNamed := by
  have hplain : (simple s).collection = none := by
    unfold simple
    split <;> rfl
  exact ⟨isAllBlank_simple s, by simp [hplain]⟩

theorem isNamed_of_read {v : Value} {t : TypeRef} (hread : read v = .ok t) : t.IsNamed := by
  unfold read at hread
  split at hread
  · next s =>
    obtain rfl := Checked.ok.inj hread
    exact isNamed_simple s
  · next entries =>
    rw [readEntries] at hread
    split at hread
    · obtain ⟨hname, hkind⟩ := isAllBlank_of_collectionFrom hread
      exact ⟨hname, hkind⟩
    · obtain rfl := Checked.ok.inj hread
      cases presentText? (Value.entry? (.str "name") entries) with
      | none => exact ⟨by decide, by simp [anything]⟩
      | some s => exact isNamed_simple s
  · exact absurd hread nofun

theorem isSettled_of_read {v : Value} {t : TypeRef} (hread : read v = .ok t)
    (helement : ∀ c ∈ t.collection, Text.isAllBlank c.element = false) : t.IsSettled :=
  (isNamed_of_read hread).isSettled helement

theorem presentText?_null : presentText? (some null) = none := rfl

/-- A settled type is read back. -/
theorem read_toValue {t : TypeRef} (h : t.IsSettled) : read t.toValue = .ok t := by
  obtain ⟨name, collection⟩ := t
  have hname : Text.isAllBlank name = false := h.name
  cases collection with
  | none =>
    have hplain : simple name = { name } := by
      rw [simple, hname]
      rfl
    simp [read, toValue, object, readEntries, entry?, either, presentText?_str hname, hplain,
      Value.optional, presentText?_null, Value.bool, isFalsy]
  | some c =>
    have hkind : Text.isAllBlank c.kind = false := h.kind c rfl
    have helement : Text.isAllBlank c.element = false := h.element c rfl
    simp [read, toValue, object, readEntries, entry?, either, presentText?_str hname,
      presentText?_str hkind, presentText?_str helement, Value.optional, Value.bool, isFalsy,
      collectionFrom, elementOf]

/-! ### Accidents -/

theorem isRegular_elementOf (name element : Option Value) : (elementOf name element).IsRegular := by
  unfold elementOf
  split
  · exact isRegular_ok _
  · split
    · exact isRegular_ok _
    · split
      · exact isRegular_ok _
      · split
        · exact isRegular_ok _
        · exact isRegular_readString _

theorem isRegular_read (v : Value) : (read v).IsRegular := by
  unfold read
  split
  · exact isRegular_ok _
  · rw [readEntries]
    split
    · exact ((isRegular_elementOf _ _).within _).map _
    · exact isRegular_ok _
  · exact isRegular_fail _

end TypeRef

namespace Parameter

theorem read_toValue {p : Parameter} (h : p.type.IsSettled) : read p.toValue = .ok p := by
  simp [read, toValue, object, readModel, Validation.required, defaulted, firstPresent, entry?,
    readString, str, TypeRef.read_toValue h]

theorem isRegular_read (v : Value) : (read v).IsRegular :=
  isRegular_readModel (fun _ =>
    (((((isRegular_required isRegular_readString).map _).seq
      (isRegular_required TypeRef.isRegular_read)).seq
      (isRegular_defaulted (isRegular_readOptional isRegular_readBool))).seq
      (isRegular_defaulted isRegular_readString)).seq
      (isRegular_defaulted (isRegular_readOptional isRegular_readBool))) v

end Parameter

end ServiceMigration
