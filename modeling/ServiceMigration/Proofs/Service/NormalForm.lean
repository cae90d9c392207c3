import ServiceMigration.Proofs.Service.Reading
import ServiceMigration.Proofs.Text.Cut
/-!
# The normal form of a type

An analysis mentions a type in many ways, with parts missing, doubled, blank or of a wrong kind.
What is read is in normal form: it has a name, it says of what kind and of what elements it is
exactly when it is a collection, and reading what is written of it gives the type back.  The
elements of a collection come from one of three places, and only the last is not asked whether it is
blank: a name that is not empty stands for the element even if it is blank.  `blankElement?` finds
the mentions where that happens, and `normal_of_read` says that they are the only ones outside the
normal form.
-/

namespace ServiceMigration.TypeRef

open Validation Value

/-- The written type is complete, and it is what the reader makes of it again. -/
structure IsNormal (t : TypeRef) : Prop where
  named : (presentText? (t.toValue.get? "name")).isSome
  complete : t.toValue.get? "collection" = some (.bool true) →
    (presentText? (t.toValue.get? "collectionType")).isSome ∧
      (presentText? (t.toValue.get? "elementType")).isSome
  plain : t.toValue.get? "collection" ≠ some (.bool true) →
    t.toValue.get? "collectionType" = some null ∧ t.toValue.get? "elementType" = some null
  reread : read t.toValue = .ok t

/-! ### Where the element comes from -/

/-- An argument of a name is trimmed and not empty, so it ends in a character that is not blank. -/
theorem isAllBlank_of_genericArgument? {name argument : String}
    (h : genericArgument? name = some argument) :
    Text.isAllBlank argument = false := by
  unfold genericArgument? at h
  split at h
  · cases h
  · next inner _ =>
    dsimp only at h
    split at h
    · cases h
    · next hempty =>
      obtain rfl := Option.some.inj h
      have hne : Text.trimBoth Text.isBlank inner ≠ [] := by simpa using hempty
      obtain ⟨c, hc⟩ := Option.ne_none_iff_exists'.mp (List.getLast?_eq_none_iff.not.mpr hne)
      have hblank := Text.getLast?_trimBoth Text.isBlank inner c hc
      simp only [Text.isAllBlank, String.toList_ofList, List.all_eq_false]
      exact ⟨c, List.mem_of_getLast? hc, by simp [hblank]⟩

/-- The text of a value that is a text, blank though not empty. -/
def blankText? : Option Value → Option String
  | some (.scalar (.str s)) => if !s.isEmpty && Text.isAllBlank s then some s else none
  | _ => none

theorem eq_of_blankText? {o : Option Value} {s : String} (h : blankText? o = some s) :
    o = some (str s) ∧ s.isEmpty = false ∧ Text.isAllBlank s = true := by
  unfold blankText? at h
  split at h
  · split at h
    · next hblank =>
      obtain rfl := Option.some.inj h
      rw [Bool.and_eq_true, Bool.not_eq_true'] at hblank
      exact ⟨rfl, hblank.1, hblank.2⟩
    · cases h
  · cases h

theorem presentText?_of_blankText? {o : Option Value} {s : String} (h : blankText? o = some s) :
    presentText? o = none := by
  obtain ⟨rfl, -, hblank⟩ := eq_of_blankText? h
  simp [presentText?, str, hblank]

theorem blankText?_of_presentText? {o : Option Value} {s : String} (h : presentText? o = some s) :
    blankText? o = none := by
  cases hblank : blankText? o with
  | none => rfl
  | some r =>
    rw [presentText?_of_blankText? hblank] at h
    cases h

/-- Neither an element nor an argument is there, and the blank name is not asked for more than its
length. -/
theorem elementOf_of_blankText? {name element : Option Value} {s : String}
    (helement : presentText? element = none) (hname : blankText? name = some s) :
    elementOf name element = .ok s := by
  have habsent := presentText?_of_blankText? hname
  obtain ⟨rfl, hempty, -⟩ := eq_of_blankText? hname
  rw [elementOf, helement, habsent]
  simp [str, isFalsy, hempty, readString]

/-- Every element but such a name is a text that is not blank. -/
theorem isAllBlank_of_elementOf {name element : Option Value} {e : String}
    (h : elementOf name element = .ok e)
    (hname : presentText? element = none → blankText? name = none) :
    Text.isAllBlank e = false := by
  have hobject : Text.isAllBlank "Object" = false := by decide
  unfold elementOf at h
  split at h
  · next given hgiven =>
    obtain rfl := Checked.ok.inj h
    exact isAllBlank_of_presentText? hgiven
  · next habsent =>
    split at h
    · next argument hargument =>
      obtain rfl := Checked.ok.inj h
      obtain ⟨n, -, hn⟩ := Option.bind_eq_some_iff.mp hargument
      exact isAllBlank_of_genericArgument? hn
    · split at h
      · obtain rfl := Checked.ok.inj h
        exact hobject
      · next v =>
        split at h
        · obtain rfl := Checked.ok.inj h
          exact hobject
        · next htruthy =>
          obtain rfl := eq_str_of_readString h
          have hsolid := hname habsent
          simp only [str, isFalsy] at htruthy
          simpa [blankText?, str, htruthy] using hsolid

/-- A name that is there makes every mention of a collection readable. -/
theorem exists_elementOf {name element : Option Value} {n : String}
    (h : presentText? name = some n) :
    ∃ e, elementOf name element = .ok e := by
  unfold elementOf
  split
  · exact ⟨_, rfl⟩
  · split
    · exact ⟨_, rfl⟩
    · unfold presentText? at h
      split at h
      · dsimp only
        split
        · exact ⟨_, rfl⟩
        · exact ⟨_, rfl⟩
      · cases h

/-! ### Mentions of collections -/

/-- The entries mention a collection: they say so, or they name its kind. -/
def mentionsCollection (entries : List (Scalar × Value)) : Bool :=
  !((Value.entry? (.str "collection") entries).map isFalsy).getD true ||
    (presentText? (either "collectionType" "collection_type" entries)).isSome

/-- The blank name that stands for the element of the collection that is mentioned, if one does. -/
def blankElement? : Value → Option String
  | .dict entries =>
    if mentionsCollection entries &&
      (presentText? (either "elementType" "element_type" entries)).isNone then
      blankText? (Value.entry? (.str "name") entries)
    else none
  | _ => none

/-- A collection whose element is `element`, named after it and its kind. -/
def named (kind element : String) : TypeRef :=
  { name := kind ++ "<" ++ element ++ ">", collection := some { kind, element } }

theorem readEntries_eq (entries : List (Scalar × Value)) :
    readEntries entries = if mentionsCollection entries then
      collectionFrom (Value.entry? (.str "name") entries)
        (either "collectionType" "collection_type" entries)
        (either "elementType" "element_type" entries)
    else .ok ((presentText? (Value.entry? (.str "name") entries)).map simple |>.getD anything) :=
      rfl

theorem hasElement_simple (s : String) : (simple s).HasElement := by
  intro c hc
  unfold simple at hc
  split at hc <;> cases hc

theorem collectionFrom_of_elementOf {name kind element : Option Value} {e : String}
    (h : elementOf name element = .ok e) :
    collectionFrom name kind element =
      .ok { name := (presentText? name).getD ((presentText? kind).getD "List" ++ "<" ++ e ++ ">")
            collection := some { kind := (presentText? kind).getD "List", element := e } } := by
  rw [collectionFrom, h]
  rfl

/-- Where a blank name stands for the element, it is the element, and the name is made up from
it. -/
theorem read_of_blankElement? {v : Value} {s : String} (h : blankElement? v = some s) :
    Text.isAllBlank s = true ∧ ∃ kind, Text.isAllBlank kind = false ∧
    read v = .ok (named kind s) := by
  unfold blankElement? at h
  split at h
  · next entries =>
    split at h
    · next hmention =>
      rw [Bool.and_eq_true, Option.isNone_iff_eq_none] at hmention
      obtain ⟨-, -, hblank⟩ := eq_of_blankText? h
      have hread : read (.dict entries) = .ok (named
          ((presentText? (either "collectionType" "collection_type" entries)).getD "List") s) := by
        rw [read, readEntries_eq, if_pos hmention.1,
          collectionFrom_of_elementOf (elementOf_of_blankText? hmention.2 h),
            presentText?_of_blankText? h]
        rfl
      exact ⟨hblank, _, (isNamed_of_read hread).kind _ rfl, hread⟩
    · cases h
  · cases h

theorem hasElement_of_read {v : Value} {t : TypeRef} (hread : read v = .ok t)
    (h : blankElement? v = none) :
    t.HasElement := by
  unfold read at hread
  split at hread
  · obtain rfl := Checked.ok.inj hread
    exact hasElement_simple _
  · next entries =>
    rw [readEntries_eq] at hread
    split at hread
    · next hmention =>
      rw [collectionFrom, Checked.map_eq_ok] at hread
      obtain ⟨e, he, rfl⟩ := hread
      intro c hc
      obtain rfl := Option.mem_some.mp hc
      apply isAllBlank_of_elementOf (Checked.within_eq_ok.mp he)
      intro habsent
      simpa [blankElement?, hmention, habsent] using h
    · obtain rfl := Checked.ok.inj hread
      cases presentText? (Value.entry? (.str "name") entries) with
      | none =>
        intro c hc
        cases hc
      | some n => exact hasElement_simple n
  · cases hread

/-! ### The normal form -/

section Written

variable (t : TypeRef)

@[simp] theorem get?_toValue_name : t.toValue.get? "name" = some (str t.name) := by
  simp [get?, toValue, object, entry?]

@[simp] theorem get?_toValue_collection :
    t.toValue.get? "collection" = some (.bool t.collection.isSome) := by
  simp [get?, toValue, object, entry?]

@[simp] theorem get?_toValue_collectionType :
    t.toValue.get? "collectionType" = some (.optional (fun c => str c.kind) t.collection) := by
  simp [get?, toValue, object, entry?]

@[simp] theorem get?_toValue_elementType :
    t.toValue.get? "elementType" = some (.optional (fun c => str c.element) t.collection) := by
  simp [get?, toValue, object, entry?]

end Written

theorem isSome_presentText?_str {s : String} :
    (presentText? (some (str s))).isSome ↔ Text.isAllBlank s = false := by
  simp [presentText?, str]

/-- The normal form is a matter of the names within the type alone. -/
theorem isNormal_iff {t : TypeRef} : t.IsNormal ↔ t.IsSettled := by
  constructor
  · intro h
    have hname := h.named
    rw [get?_toValue_name, isSome_presentText?_str] at hname
    have hparts : ∀ c ∈ t.collection, Text.isAllBlank c.kind = false ∧
        Text.isAllBlank c.element = false := by
      intro c hc
      have hcomplete := h.complete
      simp only [get?_toValue_collection, get?_toValue_collectionType, get?_toValue_elementType,
        Option.mem_def.mp hc, Value.optional, isSome_presentText?_str] at hcomplete
      exact hcomplete rfl
    exact ⟨hname, fun c hc => (hparts c hc).1, fun c hc => (hparts c hc).2⟩
  · intro h
    refine ⟨?_, ?_, ?_, read_toValue h⟩
    · rw [get?_toValue_name, isSome_presentText?_str]
      exact h.name
    · intro hmarked
      cases hc : t.collection with
      | none => simp [hc, Value.bool] at hmarked
      | some c =>
        simp only [get?_toValue_collectionType, get?_toValue_elementType, hc, Value.optional,
          isSome_presentText?_str]
        exact ⟨h.kind c hc, h.element c hc⟩
    · intro hplain
      cases hc : t.collection with
      | none => simp [hc, Value.optional]
      | some c => simp [hc] at hplain

theorem isNormal_of_read {v : Value} {t : TypeRef} (hread : read v = .ok t)
    (h : blankElement? v = none) :
    t.IsNormal :=
  isNormal_iff.mpr (isSettled_of_read hread (hasElement_of_read hread h))

/-- The written type has a name that is not blank, so no blank name stands for an element. -/
theorem blankElement?_toValue {t : TypeRef} (h : t.IsNamed) : blankElement? t.toValue = none := by
  have hname : entry? (.str "name") [(.str "name", str t.name),
      (.str "collection", .bool t.collection.isSome),
      (.str "collectionType", .optional (fun c => str c.kind) t.collection),
      (.str "elementType", .optional (fun c => str c.element) t.collection)] = some (str t.name) :=
    get?_toValue_name t
  simp only [toValue, object, List.map_cons, List.map_nil, blankElement?, hname,
    blankText?_of_presentText? (presentText?_str h.name)]
  split <;> rfl

/-- A written type with a name is read, with the same name, and the result is in normal form. -/
theorem exists_read_toValue {t : TypeRef} (h : t.IsNamed) :
    ∃ u, read t.toValue = .ok u ∧ u.name = t.name ∧ u.IsNormal := by
  have hreread : ∃ u, read t.toValue = .ok u ∧ u.name = t.name := by
    cases hc : t.collection with
    | none =>
      refine ⟨t, read_toValue (h.isSettled ?_), rfl⟩
      intro c hmem
      rw [hc] at hmem
      cases hmem
    | some c =>
      have hname : presentText? (some (str t.name)) = some t.name := presentText?_str h.name
      obtain ⟨e, he⟩ : ∃ e, elementOf (some (str t.name)) (some (str c.element)) = .ok e :=
        exists_elementOf hname
      refine ⟨{ name := t.name, collection := some { kind := c.kind, element := e } }, ?_, rfl⟩
      have hkind : presentText? (some (str c.kind)) = some c.kind := presentText?_str (h.kind c hc)
      have hentries : read t.toValue =
          collectionFrom (some (str t.name)) (some (str c.kind)) (some (str c.element)) := by
        simp [read, toValue, object, readEntries, entry?, either, hc, Value.optional, hkind]
      rw [hentries, collectionFrom_of_elementOf he, hname, hkind]
      rfl
  obtain ⟨u, hu, hsame⟩ := hreread
  exact ⟨u, hu, hsame, isNormal_of_read hu (blankElement?_toValue h)⟩

theorem not_isNormal_named {kind element : String} (h : Text.isAllBlank element = true) :
    ¬ (named kind element).IsNormal := by
  intro hnormal
  have hsolid := (isNormal_iff.mp hnormal).element _ rfl
  rw [h] at hsolid
  exact absurd hsolid (by decide)

/-- **Reading normalizes.**  Whatever mention of a type is read, it is in normal form, unless a
blank name stands for the element of a collection.  That leaves a collection of blank elements named
after them, which is not what the reader makes of it; the second reading is in normal form whatever
the first was. -/
theorem normal_of_read {v : Value} {t : TypeRef} (hread : read v = .ok t) :
    (blankElement? v = none → t.IsNormal) ∧
      (∀ s, blankElement? v = some s → Text.isAllBlank s = true ∧
        (∃ kind, Text.isAllBlank kind = false ∧ t = named kind s) ∧ ¬ t.IsNormal ∧
        read t.toValue ≠ .ok t) ∧
      ∃ u, read t.toValue = .ok u ∧ u.name = t.name ∧ u.IsNormal := by
  obtain ⟨u, hu, hsame, hnormal⟩ := exists_read_toValue (isNamed_of_read hread)
  refine ⟨isNormal_of_read hread, ?_, u, hu, hsame, hnormal⟩
  intro s hs
  obtain ⟨hblank, kind, hkind, hnamed⟩ := read_of_blankElement? hs
  have ht : t = named kind s := Checked.ok.inj (hread.symm.trans hnamed)
  have hnot : ¬ t.IsNormal := ht ▸ not_isNormal_named hblank
  refine ⟨hblank, ⟨kind, hkind, ht⟩, hnot, ?_⟩
  intro hreread
  have hut : u = t := Checked.ok.inj (hu.symm.trans hreread)
  exact hnot (hut ▸ hnormal)

/-- The argument in a name and a blank element: what is read of them is in normal form. -/
theorem normal_of_read_items :
    read (object [("name", str "Set<Item>"), ("collectionType", str "Set"),
      ("elementType", str " ")]) =
        .ok (named "Set" "Item") ∧ (named "Set" "Item").IsNormal := by
  have hread : read (object [("name", str "Set<Item>"), ("collectionType", str "Set"),
      ("elementType", str " ")]) = .ok (named "Set" "Item") := by decide +kernel
  exact ⟨hread, (normal_of_read hread).1 (by decide +kernel)⟩

/-- A name of one blank: the collection read has that blank for its element, and the second reading
takes the name that was made up, so it reads another type. -/
theorem blank_name_for_element :
    read (object [("name", str " "), ("collection", .bool true)]) = .ok (named "List" " ") ∧
      ¬ (named "List" " ").IsNormal ∧
      read (named "List" " ").toValue =
        .ok { name := "List< >", collection := some { kind := "List", element := "List< >" } } := by
  refine ⟨by decide +kernel, not_isNormal_named (by decide), by decide +kernel⟩

end ServiceMigration.TypeRef
