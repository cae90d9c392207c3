import ServiceMigration.Proofs.Validation.Reading
import ServiceMigration.Settings
/-!
# Layers of settings

Loading puts whole layers over one another: the entries of a file, then those of the environment,
then what is given directly.  It comes to the same as looking for each setting on its own
(`Settings.effective?`), so a value that is overruled is never examined
(`Settings.load_eq_effective`).
-/

namespace ServiceMigration.Settings

open Value Validation

variable {w : Workspace} {file : Option Path} {higher : List (Scalar × Value)}
  {written given : List (String × Value)} {name : String}

/-! ### What is said of one setting -/

/-- The entries that a file writes settings with: those of its section, if it has one.  Their keys
are texts. -/
inductive Writes (w : Workspace) : Option Path → List (String × Value) → Prop where
  | noFile : Writes w none []
  | empty {path : Path} {text : String} (htext : w.tree.readText w.cwd path = .ok text)
      (hparse : Yaml.parse text = .ok null) : Writes w (some path) []
  | flat {path : Path} {text : String} {es : List (String × Value)}
      (htext : w.tree.readText w.cwd path = .ok text)
      (hparse : Yaml.parse text = .ok (.object es)) (hsection : "migrator" ∉ es.map Prod.fst) :
      Writes w (some path) es
  | inSection {path : Path} {text : String} {entries : List (Scalar × Value)}
      {es : List (String × Value)} (htext : w.tree.readText w.cwd path = .ok text)
      (hparse : Yaml.parse text = .ok (.dict entries))
      (hsection : entry? sectionKey entries = some (.object es)) : Writes w (some path) es

/-- What a file says of a setting: the value of the last entry whose key names it. -/
def written? (written : List (String × Value)) (name : String) : Option Value :=
  (written.reverse.find? fun e => settingName e.1 == name).map Prod.snd

/-- What the environment says of a setting. -/
def inEnvironment? (w : Workspace) (name : String) : Option Value :=
  (w.environmentValue? (variableName name)).map str

/-- Null is as good as nothing. -/
def unlessNull : Value → Option Value
  | .scalar .null => none
  | v => some v

/-- What is given directly for a setting. -/
def given? (given : List (String × Value)) (name : String) : Option Value :=
  (given.lookup name).bind unlessNull

/-- What the highest layer that says anything of a setting says of it. -/
def effective? (w : Workspace) (written given : List (String × Value)) (name : String) :
    Option Value :=
  (given? given name).or ((inEnvironment? w name).or (written? written name))

/-- One entry for each setting of which any layer says something. -/
def effectiveEntries (w : Workspace) (written given : List (String × Value)) :
    List (Scalar × Value) :=
  names.filterMap fun name => (effective? w written given name).map fun v => (.str name, v)

/-! ### One layer -/

/-- Over a layer lies the last of the entries of the higher one. -/
theorem entry?_layer (htext : ∀ e ∈ higher, ∃ k, e.1 = .str k) (name : String)
    (lower : List (Scalar × Value)) :
    entry? (.str name) (layer lower higher) =
      (Value.entry? (.str name) higher.reverse).or (Value.entry? (.str name) lower) := by
  have happend : ∀ es es' : List (Scalar × Value),
      entry? (.str name) (es ++ es') =
        (Value.entry? (.str name) es).or (Value.entry? (.str name) es') := by
    intro es es'
    induction es with
    | nil => rfl
    | cons e rest ih =>
      rw [List.cons_append, Value.entry?, Value.entry?]
      split
      · rfl
      · exact ih
  induction higher generalizing lower with
  | nil => rfl
  | cons e rest ih =>
    obtain ⟨⟨k, hk⟩, hrest⟩ := List.forall_mem_cons.mp htext
    obtain ⟨key, v⟩ := e
    obtain rfl : key = .str k := hk
    rw [layer, List.foldl_cons, ← layer, ih hrest, List.reverse_cons, happend, Option.or_assoc]
    congr 1
    rw [Value.entry?, Scalar.sameAs_str]
    by_cases hname : k = name
    · rw [hname, entry?_insertEntry_self, beq_self_eq_true, if_pos rfl, Option.some_or]
    · rw [entry?_insertEntry_of_ne (Ne.symm hname), if_neg (by simpa using hname)]
      rfl

theorem hasTextKeys_environmentValues (w : Workspace) :
    ∀ e ∈ environmentValues w, ∃ k, e.1 = .str k := by
  intro e he
  obtain ⟨name, -, hvalue⟩ := List.mem_filterMap.mp he
  obtain ⟨text, -, rfl⟩ := Option.map_eq_some_iff.mp hvalue
  exact ⟨name, rfl⟩

theorem entry?_filterMap (f : String → Option Value) (ns : List String) (name : String) :
    entry? (.str name) (ns.filterMap fun n => (f n).map fun v => (.str n, v)) =
      if name ∈ ns then f name else none := by
  induction ns with
  | nil => rfl
  | cons n rest ih =>
    rw [List.filterMap_cons]
    by_cases hn : n = name
    · subst hn
      rw [if_pos List.mem_cons_self]
      cases hf : f n with
      | none => simp [ih, hf]
      | some v => simp [Value.entry?]
    · have hmem : name ∈ n :: rest ↔ name ∈ rest := by simp [Ne.symm hn]
      rw [if_congr hmem rfl rfl, ← ih]
      cases f n with
      | none => rfl
      | some v => simp [Value.entry?, hn]

theorem entry?_environmentValues (w : Workspace) (hname : name ∈ names) :
    entry? (.str name) (environmentValues w).reverse = inEnvironment? w name := by
  have hvalues : environmentValues w =
      names.filterMap fun n => (inEnvironment? w n).map fun v =>
        ((.str n, v) : Scalar × Value) := by
    simp only [environmentValues, inEnvironment?, Option.map_map]
    rfl
  rw [hvalues, ← List.filterMap_reverse, entry?_filterMap, if_pos (List.mem_reverse.mpr hname)]

theorem lookup_eq_none_of_not_mem {es : List (String × Value)} (h : name ∉ es.map Prod.fst) :
    es.lookup name = none := by
  rw [List.lookup_eq_none_iff]
  intro e he
  rw [bne_iff_ne]
  rintro rfl
  exact h (List.mem_map_of_mem he)

theorem lookup_reverse {es : List (String × Value)} (h : (es.map Prod.fst).Nodup) (name : String) :
    es.reverse.lookup name = es.lookup name := by
  induction es with
  | nil => rfl
  | cons e rest ih =>
    obtain ⟨hnew, hrest⟩ := List.nodup_cons.mp h
    rw [List.reverse_cons, List.lookup_append, ih hrest, List.lookup_cons, List.lookup_cons]
    cases hname : name == e.1 with
    | true => rw [lookup_eq_none_of_not_mem (eq_of_beq hname ▸ hnew), Option.none_or]
    | false => exact Option.or_none

theorem givenValues_eq (given : List (String × Value)) :
    givenValues given = given.filterMap fun e => (unlessNull e.2).map fun v => (.str e.1, v) := by
  apply List.filterMap_congr
  rintro ⟨k, v⟩ -
  cases v with
  | scalar s => cases s <;> rfl
  | _ => rfl

theorem hasTextKeys_givenValues (given : List (String × Value)) :
    ∀ e ∈ givenValues given, ∃ k, e.1 = .str k := by
  rw [givenValues_eq]
  intro e he
  obtain ⟨⟨name, _⟩, -, hvalue⟩ := List.mem_filterMap.mp he
  obtain ⟨v, -, rfl⟩ := Option.map_eq_some_iff.mp hvalue
  exact ⟨name, rfl⟩

theorem entry?_filterMap_unlessNull (h : (given.map Prod.fst).Nodup) (name : String) :
    entry? (.str name) (given.filterMap fun e => (unlessNull e.2).map fun v => (.str e.1, v)) =
      given? given name := by
  induction given with
  | nil => rfl
  | cons e rest ih =>
    obtain ⟨hnew, hrest⟩ := List.nodup_cons.mp h
    have ih := ih hrest
    rw [given?] at ih
    rw [List.filterMap_cons, given?, List.lookup_cons]
    by_cases hname : e.1 = name
    · rw [beq_iff_eq.mpr hname.symm, Option.bind_some]
      cases hv : unlessNull e.2 with
      | none => rw [Option.map_none, ih, lookup_eq_none_of_not_mem (hname ▸ hnew), Option.bind_none]
      | some v => simp [Value.entry?, hname]
    · rw [beq_eq_false_iff_ne.mpr (Ne.symm hname), ← ih]
      cases unlessNull e.2 with
      | none => rfl
      | some v => simp [Value.entry?, hname]

theorem entry?_givenValues (h : (given.map Prod.fst).Nodup) (name : String) :
    entry? (.str name) (givenValues given).reverse = given? given name := by
  have hreverse : (given.reverse.map Prod.fst).Nodup := by
    rwa [List.map_reverse, List.nodup_reverse]
  rw [givenValues_eq, ← List.filterMap_reverse, entry?_filterMap_unlessNull hreverse, given?,
    lookup_reverse h, ← given?]

theorem sectionValues_object (es : List (String × Value)) :
    sectionValues (es.map fun e => (.str e.1, e.2)) =
      .ok (es.map fun e => (.str (settingName e.1), e.2)) := by
  induction es with
  | nil => rfl
  | cons e rest ih =>
    rw [List.map_cons, sectionValues, ih]
    rfl

theorem hasTextKeys_settingNames (written : List (String × Value)) :
    ∀ e ∈ written.map fun e => ((.str (settingName e.1), e.2) : Scalar × Value), ∃ k,
      e.1 = .str k := by
  rw [List.forall_mem_map]
  intro e he
  exact ⟨settingName e.1, rfl⟩

theorem entry?_settingNames (written : List (String × Value)) (name : String) :
    entry? (.str name) (written.map fun e => (.str (settingName e.1), e.2)).reverse =
      written? written name := by
  rw [← List.map_reverse, written?]
  induction written.reverse with
  | nil => rfl
  | cons e rest ih =>
    rw [List.map_cons, Value.entry?, Scalar.sameAs_str, List.find?_cons, ih]
    split
    · next hname => rw [hname]; rfl
    · next hname => rw [Bool.eq_false_iff.mpr hname]

/-! ### All layers -/

theorem fileValues_of_writes {path : Path} (h : Writes w (some path) written) :
    fileValues w path = .ok (written.map fun e => (.str (settingName e.1), e.2)) := by
  cases h with
  | empty htext hparse =>
    simp only [fileValues, htext, hparse]
    rfl
  | flat htext hparse hsection =>
    have hnone : entry? sectionKey (written.map fun e => (.str e.1, e.2)) = none := by
      rw [sectionKey, entry?_eq_none_iff (List.forall_mem_map.mpr fun e _ => ⟨e.1, rfl⟩)]
      simpa using hsection
    simp only [fileValues, htext, hparse, Value.object, documentValues, hnone]
    exact sectionValues_object written
  | inSection htext hparse hsection =>
    simp only [fileValues, htext, hparse, documentValues, hsection]
    exact sectionValues_object written

/-- Settings are read from the entries under their names, and from no others. -/
theorem readEntries_congr {es es' : List (Scalar × Value)}
    (h : ∀ name ∈ names, entry? (.str name) es = entry? (.str name) es') :
      readEntries es = readEntries es' := by
  simp only [names, List.forall_mem_cons] at h
  obtain ⟨hinput, houtput, hsize, hcache, hllm, hmodel, htimeout, hprompts, -⟩ := h
  simp only [readEntries, defaulted, firstPresent, List.findSome?_cons, List.findSome?_nil, hinput,
    houtput, hsize, hcache, hllm, hmodel, htimeout, hprompts]

theorem isRegular_readPath (v : Value) : (readPath v).IsRegular := by
  unfold readPath
  split
  · exact isRegular_ok _
  · exact isRegular_fail _

theorem isRegular_readSize (v : Value) : (readSize v).IsRegular := by
  apply (isRegular_readInt v).andThen
  intro n
  split
  · exact isRegular_fail _
  · exact isRegular_ok n

theorem isRegular_readTimeout (v : Value) : (readTimeout v).IsRegular := by
  apply (isRegular_readFloat v).andThen
  intro d
  split
  · exact isRegular_ok d
  · exact isRegular_fail _

theorem isRegular_readEntries (es : List (Scalar × Value)) : (readEntries es).IsRegular := by
  have hpath : ∀ names, (defaulted names none (readOptional readPath) es).IsRegular := by
    intro names
    exact isRegular_defaulted (isRegular_readOptional isRegular_readPath)
  exact ((((((((hpath _).map _).seq (hpath _)).seq (isRegular_defaulted isRegular_readSize)).seq
    (isRegular_defaulted isRegular_readPath)).seq (isRegular_defaulted isRegular_readBool)).seq
    (isRegular_defaulted (isRegular_readOptional isRegular_readString))).seq
    (isRegular_defaulted (isRegular_readOptional isRegular_readTimeout))).seq (hpath _)

/-- Entries come to settings, or to a failure that is foreseen. -/
theorem ofEntries_cases (es : List (Scalar × Value)) :
    (∃ s, ofEntries es = .ok s) ∨ ∃ problem, ofEntries es = .error (.settings problem) := by
  unfold ofEntries
  cases h : readEntries es with
  | ok s => exact .inl ⟨s, rfl⟩
  | issues i is => exact .inr ⟨_, rfl⟩
  | accident a => exact absurd h (isRegular_readEntries es a)

theorem load_of_writes (hwritten : Writes w file written) (hgiven : (given.map Prod.fst).Nodup) :
    load w file given = ofEntries (effectiveEntries w written given) := by
  have hload : load w file given = ofEntries (layer (layer (layer []
      (written.map fun e => (.str (settingName e.1), e.2))) (environmentValues w))
        (givenValues given)) := by
    cases file with
    | none =>
      cases hwritten
      rfl
    | some path =>
      rw [load, fileValues_of_writes hwritten]
      rfl
  have hread :
    readEntries (layer (layer (layer [] (written.map fun e => (.str (settingName e.1), e.2)))
      (environmentValues w)) (givenValues given)) =
        readEntries (effectiveEntries w written given) := by
    apply readEntries_congr
    intro name hname
    rw [effectiveEntries, entry?_filterMap, if_pos hname, effective?, ← entry?_givenValues hgiven,
      ← entry?_environmentValues w hname, ← entry?_settingNames]
    rw [entry?_layer (hasTextKeys_givenValues given),
      entry?_layer (hasTextKeys_environmentValues w),
        entry?_layer (hasTextKeys_settingNames written), Value.entry?, Option.or_none]
  rw [hload, ofEntries, ofEntries, hread]

/-- Loading comes to the same as reading, for each setting on its own, what its highest layer says:
to settings, or to a failure that is foreseen.  So what a layer says of a setting that a higher one
sets makes no difference at all. -/
theorem load_eq_effective (hwritten : Writes w file written) (hgiven : (given.map Prod.fst).Nodup) :
    load w file given = ofEntries (effectiveEntries w written given) ∧
    ((∃ s, load w file given = .ok s) ∨ ∃ problem, load w file given = .error (.settings problem)) ∧
    ∀ w' file' written', Writes w' file' written' →
      (∀ name ∈ names, given? given name = none →
        inEnvironment? w' name = inEnvironment? w name ∧
          (inEnvironment? w name = none → written? written' name = written? written name)) →
      load w' file' given = load w file given := by
  have hload := load_of_writes hwritten hgiven
  refine ⟨hload, hload ▸ ofEntries_cases _, ?_⟩
  intro w' file' written' hwritten' hagree
  have heffective : effectiveEntries w' written' given = effectiveEntries w written given := by
    apply List.filterMap_congr
    intro name hname
    rw [effective?, effective?]
    cases hover : given? given name with
    | some v => rfl
    | none =>
      obtain ⟨henvironment, hfile⟩ := hagree name hname hover
      rw [henvironment]
      cases hset : inEnvironment? w name with
      | some v => rfl
      | none => rw [hfile hset]
  rw [load_of_writes hwritten' hgiven, hload, heffective]

/-- The model of the file is no text, and the environment names another one. -/
def overruledWorkspace : Workspace where
  tree.entries := [(["settings.yaml"], .file (encodeText "model: 1"))]
  environment := [("API_MIGRATOR_MODEL", "small")]

theorem load_eq_effective_overruled :
    load overruledWorkspace (some (.ofString "settings.yaml")) [("model", null),
      ("max_chunk_size", .int 4)] =
      .ok { model := some "small", maxChunkSize := 4 } := by
  have hparse : Yaml.parse "model: 1" = .ok (.object [("model", .int 1)]) := rfl
  have htext : overruledWorkspace.tree.readText overruledWorkspace.cwd (.ofString "settings.yaml") =
      .ok "model: 1" := by decide +kernel
  have hgiven : ([("model", null), ("max_chunk_size", Value.int 4)].map Prod.fst).Nodup := by decide
  obtain ⟨hload, -⟩ := load_eq_effective (.flat htext hparse (by decide)) hgiven
  rw [hload]
  decide +kernel

end ServiceMigration.Settings
