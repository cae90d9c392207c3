import ServiceMigration.Proofs.Migration.Loading
import ServiceMigration.Proofs.Settings.Layers
/-!
# What comes of loading settings

Loading gives settings, or it is reported what is wrong with them.  What the environment says and
what is given directly always comes to one of these.  A file may come to something else, and
`Settings.Escapes` lists it: bytes that are no text, numbers and times of which no value can be
made, and a key that is no text.  It is the exact list (`Settings.load_error_iff_escapes`).
-/

namespace ServiceMigration.Settings

open Value

variable {w : Workspace} {path : Path} {file : Option Path} {entries : List (Scalar × Value)}
  {v : Value} {e : Failure} {a : Accident}

/-! ### Failures that are no reports -/

/-- What happens to a key when its dashes are replaced.  A point in time can have something
replaced, but no text. -/
def keyAccident? : Scalar → Option Accident
  | .str _ => none
  | .moment _ => some .notText
  | _ => some .lacksParts

/-- The first key that is no text ends in the accident. -/
inductive OddKey : List (Scalar × Value) → Accident → Prop where
  | here {key : Scalar} {v : Value} {rest : List (Scalar × Value)} {a : Accident}
      (hkey : keyAccident? key = some a) :
      OddKey ((key, v) :: rest) a
  | later {key : String} {v : Value} {rest : List (Scalar × Value)} {a : Accident}
      (h : OddKey rest a) :
      OddKey ((.str key, v) :: rest) a

/-- The entries with which a document writes settings: those of its section, if it has one. -/
inductive SectionOf : Value → List (Scalar × Value) → Prop where
  | whole {entries : List (Scalar × Value)} (h : entry? sectionKey entries = none) :
      SectionOf (.dict entries) entries
  | inner {entries inner : List (Scalar × Value)}
      (h : entry? sectionKey entries = some (.dict inner)) :
      SectionOf (.dict entries) inner

/-- The failures of reading a file that do not report wrong settings. -/
inductive Escapes (w : Workspace) (path : Path) : Failure → Prop where
  | bytes {content : ByteArray} (hfile : w.tree.at? w.cwd path = some (.file content))
      (hbytes : decodeText? content = none) : Escapes w path .undecodable
  | yaml {text : String} {fault : Yaml.Fault} {bad : BadValue}
      (htext : w.tree.readText w.cwd path = .ok text)
      (hparse : Yaml.parse text = .error fault) (hbad : ModuleInput.badValue? fault = some bad) :
      Escapes w path (.badValue bad)
  | key {text : String} {v : Value} {entries : List (Scalar × Value)} {a : Accident}
      (htext : w.tree.readText w.cwd path = .ok text) (hparse : Yaml.parse text = .ok v)
      (hsection : SectionOf v entries) (hkey : OddKey entries a) : Escapes w path (.accident a)

/-- The failure reports wrong settings. -/
def IsReported (e : Failure) : Prop := ∃ problem, e = .settings problem

theorem not_isReported_of_escapes (h : Escapes w path e) : ¬ IsReported e := by
  rintro ⟨problem, rfl⟩
  cases h

/-! ### Keys -/

theorem sectionValues_cons_of_odd {key : Scalar} (h : keyAccident? key = some a) (v : Value)
    (rest : List (Scalar × Value)) : sectionValues ((key, v) :: rest) = .error (.accident a) := by
  cases key with
  | str k => exact absurd h nofun
  | null | bool | int | float | moment =>
    obtain rfl := Option.some.inj h
    rfl

theorem oddKey_cons_str_iff {key : String} {rest : List (Scalar × Value)} :
    OddKey ((.str key, v) :: rest) a ↔ OddKey rest a := by
  constructor
  · intro h
    cases h with
    | here h => exact absurd h nofun
    | later h => exact h
  · exact .later

theorem oddKey_cons_iff_of_odd {key : Scalar} (h : keyAccident? key = some a)
    {rest : List (Scalar × Value)} {b : Accident} : OddKey ((key, v) :: rest) b ↔ b = a := by
  constructor
  · intro hodd
    cases hodd with
    | here h' => exact Option.some.inj (h'.symm.trans h)
    | later => exact absurd h nofun
  · rintro rfl
    exact .here h

theorem sectionValues_eq_error_iff : sectionValues entries = .error e ↔
    ∃ a, OddKey entries a ∧ e = .accident a := by
  induction entries with
  | nil =>
    apply iff_of_false
    · exact nofun
    · rintro ⟨a, h, -⟩
      cases h
  | cons entry rest ih =>
    obtain ⟨key, v⟩ := entry
    cases hkey : keyAccident? key with
    | none =>
      obtain ⟨k, rfl⟩ : ∃ k, key = .str k := by
        cases key with
        | str k => exact ⟨k, rfl⟩
        | _ => exact absurd hkey nofun
      simp only [oddKey_cons_str_iff, ← ih, sectionValues]
      cases sectionValues rest <;> simp [Except.map]
    | some a =>
      rw [sectionValues_cons_of_odd hkey]
      simp [oddKey_cons_iff_of_odd hkey, eq_comm]

/-! ### The file -/

theorem documentValues_eq_error_iff : documentValues path v = .error e ∧ ¬ IsReported e ↔
    ∃ entries a, SectionOf v entries ∧ OddKey entries a ∧ e = .accident a := by
  constructor
  · rintro ⟨h, hreported⟩
    unfold documentValues at h
    split at h
    · cases h
    · next entries =>
      split at h
      · next hnone =>
        obtain ⟨a, hkey, ha⟩ := sectionValues_eq_error_iff.mp h
        exact ⟨entries, a, .whole hnone, hkey, ha⟩
      · next inner hinner =>
        obtain ⟨a, hkey, ha⟩ := sectionValues_eq_error_iff.mp h
        exact ⟨inner, a, .inner hinner, hkey, ha⟩
      · exact absurd ⟨_, (Except.error.inj h).symm⟩ hreported
    · exact absurd ⟨_, (Except.error.inj h).symm⟩ hreported
  · rintro ⟨entries, a, hsection, hkey, rfl⟩
    have hvalues : sectionValues entries = .error (.accident a) :=
      sectionValues_eq_error_iff.mpr ⟨a, hkey, rfl⟩
    refine ⟨?_, ?_⟩
    · cases hsection with
      | whole hnone => simpa only [documentValues, hnone] using hvalues
      | inner hinner => simpa only [documentValues, hinner] using hvalues
    · rintro ⟨problem, h⟩
      cases h

theorem ofFault_eq (path : Path) (text : String) (fault : Yaml.Fault) :
    ofFault path text fault = ((ModuleInput.badValue? fault).map Failure.badValue).getD
      (.settings (.malformed path (fault.text text.toList))) := by
  cases fault <;> rfl

theorem fileValues_eq_error_iff : fileValues w path = .error e ∧ ¬ IsReported e ↔
    Escapes w path e := by
  constructor
  · rintro ⟨h, hreported⟩
    unfold fileValues at h
    split at h
    · exact absurd ⟨_, (Except.error.inj h).symm⟩ hreported
    · next htext =>
      obtain rfl : Failure.undecodable = e := Except.error.inj h
      obtain ⟨content, hfile, hbytes⟩ := FileTree.readText_eq_undecodable_iff.mp htext
      exact .bytes hfile hbytes
    · next text htext =>
      split at h
      · next fault hparse =>
        obtain rfl : ofFault path text fault = e := Except.error.inj h
        rw [ofFault_eq] at hreported ⊢
        cases hbad : ModuleInput.badValue? fault with
        | none =>
          rw [hbad] at hreported
          exact absurd ⟨_, rfl⟩ hreported
        | some bad => exact .yaml htext hparse hbad
      · next v hparse =>
        obtain ⟨entries, a, hsection, hkey, rfl⟩ := documentValues_eq_error_iff.mp ⟨h, hreported⟩
        exact .key htext hparse hsection hkey
  · intro h
    refine ⟨?_, not_isReported_of_escapes h⟩
    cases h with
    | bytes hfile hbytes =>
      have htext := FileTree.readText_eq_undecodable_iff.mpr ⟨_, hfile, hbytes⟩
      simp only [fileValues, htext]
    | yaml htext hparse hbad =>
      simp only [fileValues, htext, hparse, ofFault_eq, hbad, Option.map_some, Option.getD_some]
    | key htext hparse hsection hkey =>
      simp only [fileValues, htext, hparse]
      exact (documentValues_eq_error_iff.mpr ⟨_, _, hsection, hkey, rfl⟩).1

/-! ### Loading -/

/-- Once the file is read, nothing but a report can come of loading. -/
theorem load_eq_error_iff (given : List (String × Value)) :
    load w file given = .error e ∧ ¬ IsReported e ↔
    ∃ path ∈ file, Escapes w path e := by
  have hentries : ∀ es, ofEntries es = .error e → IsReported e := by
    intro es h
    rcases ofEntries_cases es with ⟨s, hs⟩ | ⟨problem, hproblem⟩
    · exact absurd (h.symm.trans hs) nofun
    · exact ⟨problem, Except.error.inj (h.symm.trans hproblem)⟩
  cases file with
  | none =>
    apply iff_of_false
    · rintro ⟨h, hreported⟩
      exact hreported (hentries _ h)
    · rintro ⟨path, hpath, -⟩
      cases hpath
  | some path =>
    have hsome : (∃ path' ∈ some path, Escapes w path' e) ↔ Escapes w path e := by simp
    rw [hsome, ← fileValues_eq_error_iff]
    apply and_congr_left
    intro hreported
    rw [load]
    cases fileValues w path with
    | error e' => simp [bind, Except.bind]
    | ok low =>
      apply iff_of_false
      · intro h
        exact hreported (hentries _ h)
      · intro h
        cases h

/-- What comes of loading besides settings and a report is what escapes from the file, with the
failure that belongs to it.  The environment and what is given directly make no difference to
that. -/
theorem load_error_iff_escapes (w : Workspace) (file : Option Path)
    (given : List (String × Value)) :
    (∀ e, (load w file given = .error e ∧ ∀ problem, e ≠ .settings problem) ↔
      ∃ path ∈ file, Escapes w path e) ∧
    (((∃ s, load w file given = .ok s) ∨
      ∃ problem, load w file given = .error (.settings problem)) ↔
      ∀ path ∈ file, ∀ e, ¬ Escapes w path e) := by
  have hescapes : ∀ e, (load w file given = .error e ∧ ∀ problem, e ≠ .settings problem) ↔
      ∃ path ∈ file, Escapes w path e := by
    intro e
    rw [← load_eq_error_iff given, IsReported, not_exists]
  refine ⟨hescapes, ?_⟩
  have hnone : (∀ path ∈ file, ∀ e, ¬ Escapes w path e) ↔
      ∀ e, ¬ (load w file given = .error e ∧ ∀ problem, e ≠ .settings problem) := by
    simp only [hescapes]
    constructor
    · rintro h e ⟨path, hpath, he⟩
      exact h path hpath e he
    · intro h path hpath e he
      exact h e ⟨path, hpath, he⟩
  rw [hnone]
  cases load w file given with
  | ok s => simp
  | error e => simp

/-- Files of settings of which one has a byte that no text has, and one a key that is a number. -/
def brokenFiles : Workspace where
  tree.entries := [(["bytes.yaml"], .file ⟨#[0xff]⟩), (["key.yaml"], .file (encodeText "5: x"))]

/-- Not every file of settings is loaded or reported, not even every text. -/
theorem broken_settings_escape :
    ¬ (∀ w path, (∃ s, load w (some path) [] = .ok s) ∨ ∃ problem, load w (some path) [] =
      .error (.settings problem)) ∧
    ¬ ∀ w path v text, w.tree.readText w.cwd path = .ok text → Yaml.parse text = .ok v →
      (∃ s, load w (some path) [] = .ok s) ∨ ∃ problem, load w (some path)
      [] = .error (.settings problem) := by
  constructor
  · intro h
    have hload : load brokenFiles (some (.ofString "bytes.yaml")) [] = .error .undecodable := by
      decide +kernel
    rcases h brokenFiles (.ofString "bytes.yaml") with ⟨s, hs⟩ | ⟨problem, hproblem⟩
    · exact absurd (hload.symm.trans hs) nofun
    · exact absurd (hload.symm.trans hproblem) nofun
  · intro h
    have htext : brokenFiles.tree.readText brokenFiles.cwd (.ofString "key.yaml") = .ok "5: x" := by
      decide +kernel
    have hparse : Yaml.parse "5: x" = .ok (.dict [(.int 5, .str "x")]) := rfl
    have hload : load brokenFiles (some (.ofString "key.yaml")) [] =
        .error (.accident .lacksParts) := by
      decide +kernel
    rcases h brokenFiles (.ofString "key.yaml") _ _ htext hparse with ⟨s, hs⟩ | ⟨problem, hproblem⟩
    · exact absurd (hload.symm.trans hs) nofun
    · exact absurd (hload.symm.trans hproblem) nofun

end ServiceMigration.Settings
