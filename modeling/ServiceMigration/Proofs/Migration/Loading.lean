import ServiceMigration.Proofs.Cache.Checkout
import ServiceMigration.Proofs.Service.Accidents
/-!
# What comes of an analysis file

An analysis file gives a module, or it is reported as bad input.  `ModuleInput.Escapes` lists
everything else that can come of it, stage by stage: bytes that are no text, numbers and times of
which no value can be made, payloads that trip, metadata that cannot be written out, and names that
are no texts.  It is the exact list (`ModuleInput.load_outcome`).
-/

namespace ServiceMigration.ModuleInput

open Value Validation

variable {w : Workspace} {p : Path} {entries : List (Scalar × Value)} {an : Analysis} {e : Failure}
  {text : String}

/-! ### Failures that are no reports -/

/-- A number or a time in a YAML text of which no value can be made. -/
def badValue? : Yaml.Fault → Option BadValue
  | .noSuchTime explanation => some (.noSuchTime explanation)
  | .noNumber base text => some (.noNumber base text)
  | .tooManyDigits count => some (.tooManyDigits count)
  | .unacceptable _ _ | .malformed _ => none

/-- What is wrong with the names that a payload gives: with that of the project, with that of the
module, and with the latter once more if it also stands for missing metadata. -/
def nameIssues (w : Workspace) (p : Path) (entries : List (Scalar × Value)) : List Issue :=
  textIssues [.key "project_name"] (valueOr entries "projectName" (directoryName w p)) ++
    textIssues [.key "module_name"] (valueOr entries "moduleName" p.stem) ++
    if (Value.entry? (.str "module") (givenMetadata entries)).isSome then []
    else textIssues [.key "metadata", .key "module"] (valueOr entries "moduleName" p.stem)

/-- The failures of loading that do not report bad input, by the stage that they come from. -/
inductive Escapes (w : Workspace) (p : Path) : Failure → Prop where
  | bytes {content : ByteArray} (hfile : w.tree.at? w.cwd p = some (.file content))
      (hbytes : decodeText? content = none) : Escapes w p .undecodable
  | json {text : String} {count : Nat} (htext : w.tree.readText w.cwd p = .ok text)
      (hsuffix : p.suffix = ".json") (hparse : Json.parse text = .error (.tooManyDigits count)) :
        Escapes w p (.badValue (.tooManyDigits count))
  | yaml {text : String} {fault : Yaml.Fault} {bad : BadValue}
      (htext : w.tree.readText w.cwd p = .ok text)
      (hsuffix : p.suffix ≠ ".json") (hparse : Yaml.parse text = .error fault)
      (hbad : badValue? fault = some bad) :
      Escapes w p (.badValue bad)
  | payload {entries : List (Scalar × Value)} {a : Accident} (hpayload : payload w p = .ok entries)
      (h : Analysis.Trips entries a) : Escapes w p (.accident a)
  | metadata {entries : List (Scalar × Value)} {an : Analysis}
      (hpayload : payload w p = .ok entries)
      (han : (Analysis.ofEntries entries).2 = .ok an) (hlong : hasLongMetadata entries = true) :
      Escapes w p (.badValue .tooLongToWrite)
  | names {entries : List (Scalar × Value)} {an : Analysis} (hpayload : payload w p = .ok entries)
      (han : (Analysis.ofEntries entries).2 = .ok an) (hshort : hasLongMetadata entries = false)
      (hissues : nameIssues w p entries ≠ []) :
      Escapes w p (.invalid ⟨"MigrationSpec", nameIssues w p entries⟩)

/-- The failure reports bad input. -/
def IsReported (e : Failure) : Prop := ∃ problem, e = .input problem

theorem not_isReported_badValue (bad : BadValue) : ¬ IsReported (.badValue bad) := by
  rintro ⟨problem, h⟩
  exact absurd h nofun

/-! ### The document -/

theorem documentOf_json (hsuffix : p.suffix = ".json") :
    documentOf p text = .error e ∧ ¬ IsReported e ↔
      ∃ count, Json.parse text = .error (.tooManyDigits count) ∧
      e = .badValue (.tooManyDigits count) := by
  unfold documentOf
  rw [if_pos (by rw [hsuffix]; rfl)]
  constructor
  · rintro ⟨h, hreported⟩
    split at h
    · exact absurd h nofun
    · next count hparse => exact ⟨count, hparse, (Except.error.inj h).symm⟩
    · exact absurd ⟨_, (Except.error.inj h).symm⟩ hreported
  · rintro ⟨count, hparse, rfl⟩
    rw [hparse]
    exact ⟨rfl, not_isReported_badValue _⟩

theorem ofFault_eq {fault : Yaml.Fault} :
    (∀ bad, badValue? fault = some bad → ofFault p text fault = .badValue bad) ∧
      (badValue? fault = none → IsReported (ofFault p text fault)) := by
  cases fault with
  | unacceptable | malformed =>
    constructor
    · exact nofun
    · intro hbad
      exact ⟨_, rfl⟩
  | noSuchTime | noNumber | tooManyDigits =>
    constructor
    · intro bad hbad
      obtain rfl := Option.some.inj hbad
      rfl
    · exact nofun

theorem documentOf_yaml (hsuffix : p.suffix ≠ ".json") :
    documentOf p text = .error e ∧ ¬ IsReported e ↔
      ∃ fault bad, Yaml.parse text = .error fault ∧ badValue? fault = some bad ∧
      e = .badValue bad := by
  unfold documentOf
  rw [if_neg (by simpa using hsuffix)]
  constructor
  · rintro ⟨h, hreported⟩
    cases hparse : Yaml.parse text with
    | ok v =>
      rw [hparse] at h
      exact absurd h nofun
    | error fault =>
      rw [hparse] at h
      obtain rfl : ofFault p text fault = e := Except.error.inj h
      cases hbad : badValue? fault with
      | none => exact absurd (ofFault_eq.2 hbad) hreported
      | some bad => exact ⟨fault, bad, rfl, hbad, ofFault_eq.1 bad hbad⟩
  · rintro ⟨fault, bad, hparse, hbad, rfl⟩
    rw [hparse]
    exact ⟨congrArg Except.error (ofFault_eq.1 bad hbad), not_isReported_badValue bad⟩

theorem payload_eq_error_iff : payload w p = .error e ∧ ¬ IsReported e ↔
    (w.tree.readText w.cwd p = .error .undecodable ∧ e = .undecodable) ∨
      ∃ text, w.tree.readText w.cwd p = .ok text ∧ documentOf p text = .error e ∧
      ¬ IsReported e := by
  unfold payload
  cases htext : w.tree.readText w.cwd p with
  | error problem =>
    cases problem with
    | unreadable problem =>
      apply iff_of_false
      · rintro ⟨h, hreported⟩
        exact hreported ⟨_, (Except.error.inj h).symm⟩
      · simp
    | undecodable =>
      have hundecodable : ¬ IsReported .undecodable := by
        rintro ⟨problem, h⟩
        exact absurd h nofun
      constructor
      · rintro ⟨h, -⟩
        exact .inl ⟨rfl, (Except.error.inj h).symm⟩
      · rintro (⟨-, rfl⟩ | ⟨text, htext', -⟩)
        · exact ⟨rfl, hundecodable⟩
        · exact absurd htext' nofun
  | ok text =>
    simp only [reduceCtorEq, false_and, false_or, Except.ok.injEq, exists_eq_left']
    apply and_congr_left
    intro hreported
    cases hdocument : documentOf p text with
    | error e' => simp
    | ok v =>
      cases v with
      | dict entries => simp
      | scalar | list =>
        apply iff_of_false
        · intro h
          exact hreported ⟨_, (Except.error.inj h).symm⟩
        · exact nofun

/-! ### The names -/

theorem flatMap_textIssues_of_isTextMap {l : List (Scalar × Value)} (h : IsTextMap l) :
    ((l.map fun e => (e.1.text, e.2)).flatMap fun e => textIssues [.key e.1] e.2) = [] := by
  obtain ⟨es, rfl, -⟩ := h
  rw [List.map_map, List.flatMap_map, List.flatMap_eq_nil_iff]
  intro e he
  rfl

/-- What of the metadata is no text is the name of the module, where it is put in. -/
theorem issueList_metadata (entries : List (Scalar × Value)) (place : String) (name : Value) :
    (readStringMap (.object (metadata entries place name))).issueList =
      if (Value.entry? (.str "module") (givenMetadata entries)).isSome then []
      else textIssues [.key "module"] name := by
  have hmetadata : metadata entries place name = (orInsert "module" name
      (orInsert "root" (str place) (givenMetadata entries))).map fun e => (e.1.text, e.2) := rfl
  have hmap := isTextMap_orInsert (isTextMap_givenMetadata entries) "root" place
  have hmodule : entry? (.str "module") (orInsert "root" (str place) (givenMetadata entries)) =
      entry? (.str "module") (givenMetadata entries) := entry?_orInsert_of_ne (by decide) _ _
  rw [issueList_readStringMap_object, hmetadata, orInsert, hmodule]
  split
  · exact flatMap_textIssues_of_isTextMap hmap
  · next hnew =>
    have hnone : entry? (.str "module") (orInsert "root" (str place) (givenMetadata entries)) =
        none := by
      rw [hmodule]
      simpa using hnew
    have htext : ∀ e ∈ orInsert "root" (str place) (givenMetadata entries), ∃ k, e.1 = .str k := by
      obtain ⟨es, hes, -⟩ := hmap
      rw [hes]
      exact List.forall_mem_map.mpr fun e _ => ⟨e.1, rfl⟩
    rw [insertEntry_str_of_not_mem name htext ((entry?_eq_none_iff htext).mp hnone),
      List.map_append, List.flatMap_append, flatMap_textIssues_of_isTextMap hmap]
    simp [Scalar.text]

theorem issueList_readModule (w : Workspace) (p : Path) (entries : List (Scalar × Value))
    (an : Analysis) (place : String) :
    (an.readModule (valueOr entries "projectName" (directoryName w p))
      (valueOr entries "moduleName" p.stem)
      (metadata entries place (valueOr entries "moduleName" p.stem))).issueList =
        nameIssues w p entries := by
  have hproject :=
    ((isRegular_readString (valueOr entries "projectName" (directoryName w p))).within
    (.key "project_name")).map an.module
  have hname := (isRegular_readString (valueOr entries "moduleName" p.stem)).within
    (.key "module_name")
  have hmetadata := (isRegular_readStringMap (.object (metadata entries place
    (valueOr entries "moduleName" p.stem)))).within (.key "metadata")
  rw [Analysis.readModule, Checked.issueList_seq (hproject.seq hname) hmetadata,
    Checked.issueList_seq hproject hname]
  rw [Checked.issueList_map, Checked.issueList_within, Checked.issueList_within,
    Checked.issueList_within, issueList_readString, issueList_readString, issueList_metadata,
      map_within_textIssues, map_within_textIssues,
    nameIssues]
  split <;> simp

theorem isRegular_readModule (an : Analysis) (project name : Value)
    (texts : List (String × Value)) :
    (an.readModule project name texts).IsRegular :=
  ((((isRegular_readString _).within _).map _).seq ((isRegular_readString _).within _)).seq
    ((isRegular_readStringMap _).within _)

theorem make_eq_error_iff : make w p entries an = .error e ↔
    (hasLongMetadata entries = true ∧ e = .badValue .tooLongToWrite) ∨
      (hasLongMetadata entries = false ∧ nameIssues w p entries ≠ [] ∧
        e = .invalid ⟨"MigrationSpec", nameIssues w p entries⟩) := by
  unfold make
  dsimp only
  cases hlong : hasLongMetadata entries with
  | true =>
    rw [if_pos rfl]
    constructor
    · intro h
      exact .inl ⟨rfl, (Except.error.inj h).symm⟩
    · rintro (⟨-, rfl⟩ | ⟨h, -⟩)
      · rfl
      · exact absurd h nofun
  | false =>
    have hissues := issueList_readModule w p entries an (placeText (p.resolve w.cwd).dropLast)
    rw [directoryName] at hissues
    rw [if_neg Bool.false_ne_true]
    split
    · next m hm =>
      rw [hm] at hissues
      apply iff_of_false
      · exact nofun
      · simp [← hissues, Checked.issueList]
    · next i is his =>
      rw [his] at hissues
      simp [← hissues, Checked.issueList, eq_comm]
    · next a ha => exact absurd ha (isRegular_readModule _ _ _ _ a)

/-! ### Loading -/

theorem snd_load_eq_error_iff : (load w p).2 = .error e ↔ payload w p = .error e ∨
    ∃ entries, payload w p = .ok entries ∧
      ((∃ x, (Analysis.ofEntries entries).2 = .error x ∧ ofAnalysisError x = e) ∨
        ∃ an, (Analysis.ofEntries entries).2 = .ok an ∧ make w p entries an = .error e) := by
  unfold load
  cases payload w p with
  | error e' => simp
  | ok entries =>
    rcases hread : Analysis.ofEntries entries with ⟨records, outcome⟩
    cases outcome with
    | error x => simp [Except.mapError, Except.bind, hread]
    | ok an => simp [Except.mapError, Except.bind, hread]

theorem escapes_of_payload (h : payload w p = .error e ∧ ¬ IsReported e) : Escapes w p e := by
  rcases payload_eq_error_iff.mp h with ⟨htext, rfl⟩ | ⟨text, htext, hdocument⟩
  · obtain ⟨content, hfile, hbytes⟩ := FileTree.readText_eq_undecodable_iff.mp htext
    exact .bytes hfile hbytes
  · by_cases hsuffix : p.suffix = ".json"
    · obtain ⟨count, hparse, rfl⟩ := (documentOf_json hsuffix).mp hdocument
      exact .json htext hsuffix hparse
    · obtain ⟨fault, bad, hparse, hbad, rfl⟩ := (documentOf_yaml hsuffix).mp hdocument
      exact .yaml htext hsuffix hparse hbad

theorem escapes_iff : (load w p).2 = .error e ∧ ¬ IsReported e ↔ Escapes w p e := by
  constructor
  · rintro ⟨h, hreported⟩
    rcases snd_load_eq_error_iff.mp h with hpayload | ⟨entries, hpayload,
      ⟨x, hx, rfl⟩ | ⟨an, han, hmake⟩⟩
    · exact escapes_of_payload ⟨hpayload, hreported⟩
    · cases x with
      | invalid report => exact absurd ⟨_, rfl⟩ hreported
      | accident a => exact .payload hpayload (Analysis.ofEntries_eq_accident_iff.mp hx)
    · rcases make_eq_error_iff.mp hmake with ⟨hlong, rfl⟩ | ⟨hshort, hissues, rfl⟩
      · exact .metadata hpayload han hlong
      · exact .names hpayload han hshort hissues
  · intro h
    have hreported : ¬ IsReported e := by
      rintro ⟨problem, rfl⟩
      cases h
    refine ⟨snd_load_eq_error_iff.mpr ?_, hreported⟩
    cases h with
    | bytes hfile hbytes =>
      have htext := FileTree.readText_eq_undecodable_iff.mpr ⟨_, hfile, hbytes⟩
      exact .inl (payload_eq_error_iff.mpr (.inl ⟨htext, rfl⟩)).1
    | json htext hsuffix hparse =>
      have hdocument := (documentOf_json hsuffix).mpr ⟨_, hparse, rfl⟩
      exact .inl (payload_eq_error_iff.mpr (.inr ⟨_, htext, hdocument⟩)).1
    | yaml htext hsuffix hparse hbad =>
      have hdocument := (documentOf_yaml hsuffix).mpr ⟨_, _, hparse, hbad, rfl⟩
      exact .inl (payload_eq_error_iff.mpr (.inr ⟨_, htext, hdocument⟩)).1
    | payload hpayload htrips =>
      exact .inr ⟨_, hpayload, .inl ⟨_, Analysis.ofEntries_eq_accident_iff.mpr htrips, rfl⟩⟩
    | metadata hpayload han hlong =>
      exact .inr ⟨_, hpayload, .inr ⟨_, han, make_eq_error_iff.mpr (.inl ⟨hlong, rfl⟩)⟩⟩
    | names hpayload han hshort hissues =>
      exact .inr ⟨_, hpayload, .inr ⟨_, han, make_eq_error_iff.mpr (.inr ⟨hshort, hissues, rfl⟩)⟩⟩

/-- What comes of a file besides a module and a report of bad input is what escapes, with the
failure that belongs to it. -/
theorem load_outcome (w : Workspace) (p : Path) :
    (∀ e, Escapes w p e ↔ (load w p).2 = .error e ∧ ∀ problem, e ≠ .input problem) ∧
    (((∃ m, (load w p).2 = .ok m) ∨ ∃ problem, (load w p).2 = .error (.input problem)) ↔
      ∀ e, ¬ Escapes w p e) := by
  have hescapes : ∀ e, Escapes w p e ↔ (load w p).2 = .error e ∧ ∀ problem, e ≠ .input problem := by
    intro e
    rw [← escapes_iff, IsReported, not_exists]
  refine ⟨hescapes, ?_⟩
  simp only [hescapes, not_and, not_forall, not_not]
  cases (load w p).2 with
  | ok m => simp
  | error e => simp

/-- A file with a byte that no text has. -/
def brokenFile : Workspace where
  tree.entries := [(["orders.json"], .file ⟨#[0x7b, 0xff, 0x7d]⟩)]

/-- Not every file is loaded or reported. -/
theorem broken_file_escapes :
    ¬ ∀ (w : Workspace) (p : Path) (content : ByteArray),
      w.tree.at? w.cwd p = some (.file content) →
      p.suffix ∈ suffixes →
      (∃ m, (load w p).2 = .ok m) ∨ ∃ problem, (load w p).2 = .error (.input problem) := by
  intro h
  have hload : (load brokenFile (.ofString "orders.json")).2 = .error .undecodable := by
    decide +kernel
  rcases h brokenFile (.ofString "orders.json") ⟨#[0x7b, 0xff, 0x7d]⟩ rfl (by decide) with
    ⟨m, hm⟩ | ⟨problem, hproblem⟩
  · exact absurd (hload.symm.trans hm) nofun
  · exact absurd (hload.symm.trans hproblem) nofun

end ServiceMigration.ModuleInput
