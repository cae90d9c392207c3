import ServiceMigration.Chunk.Partition
import ServiceMigration.ModuleInput
import ServiceMigration.Proofs.Cache.Entry
import ServiceMigration.Proofs.Cache.Key
import ServiceMigration.Proofs.Validation.Reading
/-!
# Cache keys in two checkouts

A file that is read in two places gives one module up to two things that follow from the place: the
entry `root` of the metadata, which keys leave out, and the name of the project where the payload
has none.  So the chunks have the same keys exactly if the project is named, or the directories go
by one name (`contentKeys_of_checkouts`).
-/

namespace ServiceMigration

open Validation Value

/-! ### Chunks of modules with the same content -/

namespace ModuleSpec

variable {a b : ModuleSpec}

theorem SameContent.window (h : SameContent a b) (es : List Endpoint) :
    SameContent (a.window es) (b.window es) where
  projectName := h.projectName
  moduleName := h.moduleName
  endpoints := rfl
  dtos := congrArg (Chunk.requiredDtos es) h.dtos
  services := rfl
  repositories := rfl
  metadata := h.metadata

/-- Keys see of a module what `SameContent` compares. -/
theorem contentKey_eq_of_sameContent (h : SameContent a b) (ha : (a.metadata.map Prod.fst).Nodup)
    (hb : (b.metadata.map Prod.fst).Nodup) : a.contentKey = b.contentKey := by
  rw [contentKey, contentKey, canonicalText_eq_of_sameContent ha hb h]

/-- What is the same of each chunk of one size, whole or a window, is the same of all of them. -/
theorem map_chunks_eq {α : Type} {f : ModuleSpec → α} (hendpoints : a.endpoints = b.endpoints)
    (hwhole : f a = f b) (hwindow : ∀ es, f (a.window es) = f (b.window es)) (size : Nat) :
    (a.chunks size).map f = (b.chunks size).map f := by
  have hfits : a.fits size = b.fits size := by rw [fits, fits, hendpoints]
  unfold chunks
  rw [hfits, hendpoints]
  split
  · rw [List.map_singleton, List.map_singleton, hwhole]
  · rw [List.map_map, List.map_map]
    exact List.map_congr_left fun es _ => hwindow es

theorem contentKeys_eq_of_sameContent (h : SameContent a b) (ha : (a.metadata.map Prod.fst).Nodup)
    (hb : (b.metadata.map Prod.fst).Nodup) (size : Nat) :
    (a.chunks size).map contentKey = (b.chunks size).map contentKey :=
  map_chunks_eq h.endpoints (contentKey_eq_of_sameContent h ha hb)
    (fun es => contentKey_eq_of_sameContent (h.window es) ha hb) size

/-- Chunks of modules with the same parts lack a key in the same places, whatever the modules are
called. -/
theorem isNone_contentKeys_eq (hendpoints : a.endpoints = b.endpoints) (hdtos : a.dtos = b.dtos)
    (hservices : a.services = b.services) (hrepositories : a.repositories = b.repositories)
    (size : Nat) :
    (a.chunks size).map (·.contentKey.isNone) = (b.chunks size).map (·.contentKey.isNone) := by
  have hnone : ∀ m : ModuleSpec, m.contentKey.isNone = m.toValue.hasLongNumber := fun m =>
    Bool.eq_iff_iff.mpr (Option.isNone_iff_eq_none.trans contentKey_eq_none_iff)
  simp only [hnone, hasLongNumber_toValue]
  refine map_chunks_eq hendpoints ?_ (fun es => ?_) size
  · rw [hendpoints, hdtos, hservices, hrepositories]
  · simp only [window, hdtos]

/-- A chunk has the project and the metadata of its module. -/
theorem projectName_of_mem_chunks {size : Nat} {c : ModuleSpec} (h : c ∈ a.chunks size) :
    c.projectName = a.projectName ∧ c.metadata = a.metadata := by
  unfold chunks at h
  split at h
  · rw [List.mem_singleton.mp h]
    exact ⟨rfl, rfl⟩
  · obtain ⟨es, -, rfl⟩ := List.mem_map.mp h
    exact ⟨rfl, rfl⟩

/-- What is hashed of the chunks of different projects differs. -/
theorem canonicalText_ne_of_projectName_ne (h : a.projectName ≠ b.projectName)
    (ha : (a.metadata.map Prod.fst).Nodup) (hb : (b.metadata.map Prod.fst).Nodup) {size : Nat}
    {c d : ModuleSpec} {text : String} (hc : c ∈ a.chunks size) (hd : d ∈ b.chunks size)
    (htext : c.withoutLocation.canonicalText = some text) :
    d.withoutLocation.canonicalText ≠ some text := by
  obtain ⟨hcProject, hcMetadata⟩ := projectName_of_mem_chunks hc
  obtain ⟨hdProject, hdMetadata⟩ := projectName_of_mem_chunks hd
  intro htext'
  rw [← hcMetadata] at ha
  rw [← hdMetadata] at hb
  have hsame := sameContent_of_canonicalText ha hb htext htext'
  exact h (hcProject ▸ hdProject ▸ hsame.projectName)

end ModuleSpec

/-! ### Metadata -/

theorem entry?_map_textEntry (es : List (String × String)) (k : String) :
    entry? (.str k) (es.map textEntry) = (es.lookup k).map str := by
  induction es with
  | nil => rfl
  | cons e rest ih =>
    rw [List.map_cons, textEntry, entry?, Scalar.sameAs_str, List.lookup_cons, ih]
    by_cases hk : k = e.1
    · simp [hk, str]
    · have hne : (e.1 == k) = false := by simpa using Ne.symm hk
      have hne' : (k == e.1) = false := by simpa using hk
      simp [hne, hne']

/-- Entries that are different texts with texts. -/
def IsTextMap (l : List (Scalar × Value)) : Prop :=
  ∃ es : List (String × String), l = es.map textEntry ∧ (es.map Prod.fst).Nodup

/-- A text that is put in keeps the keys, or comes last. -/
theorem exists_insertEntry (k v : String) (es : List (String × String)) :
    ∃ fs : List (String × String),
      insertEntry (.str k) (str v) (es.map textEntry) = fs.map textEntry ∧
      fs.map Prod.fst =
        if k ∈ es.map Prod.fst then es.map Prod.fst else es.map Prod.fst ++ [k] := by
  induction es with
  | nil => exact ⟨[(k, v)], rfl, rfl⟩
  | cons e rest ih =>
    obtain ⟨fs, hfs, hkeys⟩ := ih
    rw [List.map_cons, textEntry, insertEntry, Scalar.sameAs_str]
    by_cases hk : e.1 = k
    · refine ⟨(e.1, v) :: rest, ?_, ?_⟩
      · rw [hk, beq_self_eq_true, if_pos rfl]
        rfl
      · simp [hk]
    · have hne : ¬(e.1 == k) = true := by simpa using hk
      refine ⟨e :: fs, ?_, ?_⟩
      · rw [if_neg hne, hfs]
        rfl
      · have hne' : k ≠ e.1 := Ne.symm hk
        by_cases hmem : k ∈ rest.map Prod.fst <;> simp [hkeys, hmem, hne']

theorem IsTextMap.insertEntry {l : List (Scalar × Value)} (h : IsTextMap l) (k v : String) :
    IsTextMap (insertEntry (.str k) (str v) l) := by
  obtain ⟨es, rfl, hnodup⟩ := h
  obtain ⟨fs, hfs, hkeys⟩ := exists_insertEntry k v es
  refine ⟨fs, hfs, ?_⟩
  rw [hkeys]
  split
  · exact hnodup
  · next hnew =>
    rw [← List.concat_eq_append]
    exact List.Nodup.concat hnew hnodup

namespace ModuleInput

theorem isTextMap_orInsert {l : List (Scalar × Value)} (h : IsTextMap l) (k v : String) :
    IsTextMap (orInsert k (str v) l) := by
  unfold orInsert
  split
  · exact h
  · exact h.insertEntry k v

theorem entry?_orInsert_self (k : String) (v : Value) (l : List (Scalar × Value)) :
    entry? (.str k) (orInsert k v l) = some ((Value.entry? (.str k) l).getD v) := by
  unfold orInsert
  cases h : entry? (.str k) l with
  | some w => simp [h]
  | none => simp [entry?_insertEntry_self]

theorem entry?_orInsert_of_ne {j k : String} (h : j ≠ k) (v : Value) (l : List (Scalar × Value)) :
    entry? (.str j) (orInsert k v l) = entry? (.str j) l := by
  unfold orInsert
  split
  · rfl
  · exact entry?_insertEntry_of_ne h v l

/-- The metadata that a payload gives, as text. -/
def givenMetadata (entries : List (Scalar × Value)) : List (Scalar × Value) :=
  match entry? (.str "metadata") entries with
  | some (.dict es) => es.foldl (fun acc e => insertEntry (.str e.1.text) (str e.2.text) acc) []
  | _ => []

theorem isTextMap_givenMetadata (entries : List (Scalar × Value)) :
    IsTextMap (givenMetadata entries) := by
  have hfold : ∀ (es : List (Scalar × Value)) (acc : List (Scalar × Value)), IsTextMap acc →
      IsTextMap (es.foldl (fun acc e => insertEntry (.str e.1.text) (str e.2.text) acc) acc) := by
    intro es
    induction es with
    | nil => exact fun _ hacc => hacc
    | cons e rest ih => exact fun acc hacc => ih _ (hacc.insertEntry _ _)
  unfold givenMetadata
  split
  · exact hfold _ _ ⟨[], rfl, List.nodup_nil⟩
  · exact ⟨[], rfl, List.nodup_nil⟩

/-- The metadata of a module is a mapping of texts, and only its entry `root` follows from the
place. -/
theorem exists_metadata (entries : List (Scalar × Value)) (place moduleName : String) :
    ∃ es : List (String × String), metadata entries place (str moduleName) =
      es.map (fun e => (e.1, str e.2)) ∧
      (es.map Prod.fst).Nodup ∧ ∀ key, key ≠ "root" →
        (es.lookup key).map str = entry? (.str key)
        (orInsert "module" (str moduleName) (givenMetadata entries)) := by
  obtain ⟨es, hes, hnodup⟩ : IsTextMap (orInsert "module" (str moduleName)
      (orInsert "root" (str place) (givenMetadata entries))) :=
    isTextMap_orInsert (isTextMap_orInsert (isTextMap_givenMetadata entries) _ _) _ _
  have hmetadata : metadata entries place (str moduleName) =
      (orInsert "module" (str moduleName) (orInsert "root" (str place) (givenMetadata entries))).map
        fun e => (e.1.text, e.2) := rfl
  refine ⟨es, ?_, hnodup, ?_⟩
  · rw [hmetadata, hes, List.map_map]
    rfl
  · intro key hkey
    rw [← entry?_map_textEntry, ← hes]
    by_cases hmodule : key = "module"
    · rw [hmodule, entry?_orInsert_self, entry?_orInsert_self, entry?_orInsert_of_ne (by decide)]
    · rw [entry?_orInsert_of_ne hmodule, entry?_orInsert_of_ne hmodule, entry?_orInsert_of_ne hkey]

/-! ### Loading -/

variable {w w' : Workspace} {p p' : Path} {entries : List (Scalar × Value)} {an : Analysis}
  {m : ModuleInput} {records : List Record}

/-- The payload names its project; nothing else has to. -/
def NamesProject (entries : List (Scalar × Value)) : Prop :=
  ∃ v, entry? (.str "projectName") entries = some v ∧ v.isFalsy = false

/-- The name of the directory that a file is in. -/
def directoryName (w : Workspace) (p : Path) : String :=
  ((p.resolve w.cwd).dropLast.getLast?).getD ""

theorem valueOr_of_named {key : String} {v : Value} (h : entry? (.str key) entries = some v)
    (hv : v.isFalsy = false) (absent : String) : valueOr entries key absent = v := by
  rw [valueOr, h]
  simp [hv]

theorem valueOr_of_not_named {key : String}
    (h : ¬∃ v, entry? (.str key) entries = some v ∧ v.isFalsy = false)
    (absent : String) : valueOr entries key absent = str absent := by
  unfold valueOr
  split
  · rfl
  · next v hv =>
    by_cases hfalsy : v.isFalsy = true
    · exact if_pos hfalsy
    · exact absurd ⟨v, hv, by simpa using hfalsy⟩ h

/-- What is made of a payload: its two names are texts, and the rest is as it was read. -/
theorem make_eq_ok : make w p entries an = .ok m ↔
    hasLongMetadata entries = false ∧ ∃ project name texts,
    valueOr entries "projectName" (directoryName w p) = str project ∧
      valueOr entries "moduleName" p.stem = str name ∧
      metadata entries (placeText (p.resolve w.cwd).dropLast) (str name) =
        texts.map (fun e : String × String => (e.1, str e.2)) ∧
      m = ⟨an, an.module project name texts⟩ := by
  unfold make directoryName
  dsimp only
  by_cases hlong : hasLongMetadata entries = true
  · rw [if_pos hlong]
    exact iff_of_false nofun fun h => absurd (hlong.symm.trans h.1) nofun
  rw [if_neg hlong, and_iff_right (Bool.eq_false_iff.mpr hlong)]
  constructor
  · intro h
    split at h
    · next spec hspec =>
      simp only [Analysis.readModule, Checked.seq_eq_ok, Checked.map_eq_ok, Checked.within_eq_ok]
        at hspec
      obtain ⟨-, texts, ⟨-, name, ⟨project, hproject, rfl⟩, hname, rfl⟩, htexts, rfl⟩ := hspec
      have hnameValue := eq_str_of_readString hname
      obtain ⟨es, hes, -⟩ := exists_metadata entries (placeText (p.resolve w.cwd).dropLast) name
      rw [hnameValue, hes, readStringMap_object] at htexts
      obtain rfl := Checked.ok.inj htexts
      exact ⟨project, name, es, eq_str_of_readString hproject, hnameValue, hes,
        (Except.ok.inj h).symm⟩
    · cases h
    · cases h
  · rintro ⟨project, name, texts, hproject, hname, htexts, rfl⟩
    rw [hproject, hname, htexts, Analysis.readModule, readStringMap_object]
    rfl

theorem load_eq_ok : load w p = (records, .ok m) ↔ ∃ entries an, payload w p = .ok entries ∧
    Analysis.ofEntries entries = (records, .ok an) ∧ make w p entries an = .ok m := by
  unfold load
  constructor
  · intro h
    split at h
    · exact absurd (Prod.mk.inj h).2 nofun
    · next entries hentries =>
      rcases hread : Analysis.ofEntries entries with ⟨dropped, outcome⟩
      rw [hread] at h
      cases outcome with
      | error e => exact absurd (Prod.mk.inj h).2 nofun
      | ok an =>
        obtain ⟨rfl, hmake⟩ := Prod.mk.inj h
        exact ⟨entries, an, hentries, hread, hmake⟩
  · rintro ⟨entries, an, hentries, hread, hmake⟩
    rw [hentries]
    dsimp only
    rw [hread]
    exact Prod.ext rfl hmake

theorem readText_of_file {content : ByteArray} (h : w.tree.at? w.cwd p = some (.file content)) :
    w.tree.readText w.cwd p =
      match decodeText? content with
      | some text => .ok text
      | none => .error .undecodable := by
  cases hdecode : decodeText? content with
  | none => exact FileTree.readText_eq_undecodable_iff.mpr ⟨content, h, hdecode⟩
  | some text => exact FileTree.readText_eq_ok_iff.mpr ⟨content, h, hdecode⟩

theorem documentOf_congr (hsuffix : p.suffix = p'.suffix) {text : String} {v : Value}
    (h : documentOf p text = .ok v) : documentOf p' text = .ok v := by
  unfold documentOf at h ⊢
  rw [← hsuffix]
  by_cases hjson : (p.suffix == ".json") = true
  · rw [if_pos hjson] at h ⊢
    split at h
    · exact h
    · exact absurd h nofun
    · exact absurd h nofun
  · rw [if_neg hjson] at h ⊢
    cases hyaml : Yaml.parse text with
    | ok w =>
      rw [hyaml] at h
      exact h
    | error e =>
      rw [hyaml] at h
      exact absurd h nofun

/-- The payload follows from the content and the ending of a file. -/
theorem payload_congr {content : ByteArray} (hsuffix : p.suffix = p'.suffix)
    (hfile : w.tree.at? w.cwd p = some (.file content))
    (hfile' : w'.tree.at? w'.cwd p' = some (.file content))
    (h : payload w p = .ok entries) : payload w' p' = .ok entries := by
  unfold payload at h ⊢
  rw [readText_of_file hfile] at h
  rw [readText_of_file hfile']
  cases htext : decodeText? content with
  | none =>
    rw [htext] at h
    exact absurd h nofun
  | some text =>
    rw [htext] at h
    dsimp only at h ⊢
    cases hdocument : documentOf p text with
    | error e =>
      rw [hdocument] at h
      exact absurd h nofun
    | ok v =>
      rw [hdocument] at h
      rw [documentOf_congr hsuffix hdocument]
      cases v with
      | dict es => exact h
      | _ => exact absurd h nofun

theorem lookup_of_metadata {place name : String} {texts : List (String × String)}
    (h : metadata entries place (str name) = texts.map fun e => (e.1, str e.2)) :
    (texts.map Prod.fst).Nodup ∧ ∀ key, key ≠ "root" →
      (texts.lookup key).map str = entry? (.str key)
      (orInsert "module" (str name) (givenMetadata entries)) := by
  obtain ⟨es, hes, hnodup, hlookup⟩ := exists_metadata entries place name
  have hread := readStringMap_object texts
  rw [← h, hes, readStringMap_object] at hread
  obtain rfl := Checked.ok.inj hread
  exact ⟨hnodup, hlookup⟩

/-- The name that another place gives to a project that was read. -/
theorem exists_projectName {project absent : String} (absent' : String)
    (h : valueOr entries "projectName" absent = str project) :
    ∃ project', valueOr entries "projectName" absent' = str project' ∧
      (NamesProject entries ∨ absent = absent' → project = project') ∧
      (¬(NamesProject entries ∨ absent = absent') → project ≠ project') := by
  by_cases hnamed : NamesProject entries
  · obtain ⟨v, hv, hfalsy⟩ := hnamed
    refine ⟨project, ?_, fun _ => rfl, fun hother => absurd (.inl ⟨v, hv, hfalsy⟩) hother⟩
    rw [valueOr_of_named hv hfalsy] at h ⊢
    exact h
  · rw [valueOr_of_not_named hnamed] at h
    obtain rfl : absent = project := Scalar.str.inj (Value.scalar.inj h)
    refine ⟨absent', valueOr_of_not_named hnamed absent', ?_, ?_⟩
    · rintro (hname | heq)
      · exact absurd hname hnamed
      · exact heq
    · intro hother heq
      exact hother (.inr heq)

theorem sameContent_module {project project' name : String} {texts texts' : List (String × String)}
    (hproject : project = project')
    (hlookup : ∀ key, key ≠ "root" → (texts.lookup key).map str = (texts'.lookup key).map str) :
    ModuleSpec.SameContent (an.module project name texts) (an.module project' name texts') := by
  refine ⟨hproject, rfl, rfl, rfl, rfl, rfl, ?_⟩
  intro key hkey
  have hinj : Function.Injective str := fun _ _ h => Scalar.str_injective (Value.scalar.inj h)
  exact Option.map_injective hinj (hlookup key hkey)

/-- A file that is read in two places gives one analysis.  Its chunks have the same keys if the
payload names the project or the two directories go by one name; otherwise none of the texts of
which the keys are digests is the same.  A chunk that cannot be written has no key in either
place. -/
theorem contentKeys_of_checkouts {content : ByteArray} (hname : p.name = p'.name)
    (hfile : w.tree.at? w.cwd p = some (.file content))
    (hfile' : w'.tree.at? w'.cwd p' = some (.file content))
    (hload : load w p = (records, .ok m)) :
    ∃ entries m', payload w p = .ok entries ∧ load w' p' = (records, .ok m') ∧
      m'.analysis = m.analysis ∧
      (NamesProject entries ∨ directoryName w p = directoryName w' p' → ∀ size : Int,
        (m.module.chunksOf size).map (·.map ModuleSpec.contentKey) =
          (m'.module.chunksOf size).map (·.map ModuleSpec.contentKey)) ∧
      (¬(NamesProject entries ∨ directoryName w p = directoryName w' p') →
        ∀ (size : Int) chunks chunks',
          m.module.chunksOf size = .ok chunks → m'.module.chunksOf size = .ok chunks' →
            ∀ c ∈ chunks, ∀ c' ∈ chunks', ∀ text,
              c.withoutLocation.canonicalText = some text →
                c'.withoutLocation.canonicalText ≠ some text) ∧
      ∀ size : Int, (m.module.chunksOf size).map (·.map (·.contentKey.isNone)) =
        (m'.module.chunksOf size).map (·.map (·.contentKey.isNone)) := by
  obtain ⟨entries, an, hpayload, hanalysis, hmake⟩ := load_eq_ok.mp hload
  obtain ⟨hshort, project, name, texts, hproject, hmodule, htexts, rfl⟩ := make_eq_ok.mp hmake
  have hstem : p'.stem = p.stem := by rw [Path.stem, Path.stem, hname]
  have hsuffix : p.suffix = p'.suffix := by rw [Path.suffix, Path.suffix, hname]
  obtain ⟨project', hproject', hsame, hother⟩ := exists_projectName (directoryName w' p') hproject
  obtain ⟨texts', htexts', -⟩ :=
    exists_metadata entries (placeText (p'.resolve w'.cwd).dropLast) name
  obtain ⟨hnodup, hlookup⟩ := lookup_of_metadata htexts
  obtain ⟨hnodup', hlookup'⟩ := lookup_of_metadata htexts'
  have hmake' : make w' p' entries an = .ok ⟨an, an.module project' name texts'⟩ :=
    make_eq_ok.mpr ⟨hshort, project', name, texts', hproject', hstem ▸ hmodule, htexts', rfl⟩
  have hload' := load_eq_ok.mpr ⟨entries, an, payload_congr hsuffix hfile hfile' hpayload,
    hanalysis, hmake'⟩
  refine ⟨entries, _, hpayload, hload', rfl, ?_, ?_, ?_⟩
  · intro hcondition size
    have hcontent : ModuleSpec.SameContent (an.module project name texts)
        (an.module project' name texts') :=
      sameContent_module (hsame hcondition) fun key hkey =>
        (hlookup key hkey).trans (hlookup' key hkey).symm
    have hkeys := ModuleSpec.contentKeys_eq_of_sameContent hcontent hnodup hnodup' size.toNat
    unfold ModuleSpec.chunksOf
    split
    · rfl
    · exact congrArg Except.ok hkeys
  · intro hcondition size chunks chunks' hchunks hchunks' c hc c' hc' text htext
    unfold ModuleSpec.chunksOf at hchunks hchunks'
    split at hchunks
    · exact absurd hchunks nofun
    · next hsize =>
      rw [if_neg hsize] at hchunks'
      obtain rfl := Except.ok.inj hchunks
      obtain rfl := Except.ok.inj hchunks'
      exact ModuleSpec.canonicalText_ne_of_projectName_ne (hother hcondition) hnodup hnodup' hc hc'
        htext
  · intro size
    have hkeys : ((an.module project name texts).chunks size.toNat).map (·.contentKey.isNone) =
        ((an.module project' name texts').chunks size.toNat).map (·.contentKey.isNone) := by
      apply ModuleSpec.isNone_contentKeys_eq
      all_goals rfl
    unfold ModuleSpec.chunksOf
    split
    · rfl
    · exact congrArg Except.ok hkeys

/-- A working directory of some name with one file in it. -/
def checkout (name text : String) : Workspace where
  cwd := [name]
  tree := { entries := [([name], .directory), ([name, "orders.json"], .file (encodeText text))] }

/-- What is loaded of a payload without endpoints. -/
def emptyOrders (project : String) (place : String) : ModuleInput where
  analysis := {}
  module :=
    { projectName := project
      moduleName := "orders"
      metadata := [("root", place), ("module", "orders")] }

def ordersFile : Path := { parts := ["orders.json"] }

def shopPayload : String := "\x7b\"projectName\": \"shop\"\x7d"

/-- Two checkouts of a project that is named have the same keys. -/
theorem contentKeys_of_checkouts_named :
    (checkout "a" shopPayload).tree.at? ["a"] ordersFile = some (.file (encodeText shopPayload)) ∧
      (checkout "b" shopPayload).tree.at? ["b"] ordersFile = some (.file (encodeText shopPayload)) ∧
      load (checkout "a" shopPayload) ordersFile = ([], .ok (emptyOrders "shop" "/a")) ∧
      ∃ m', load (checkout "b" shopPayload) ordersFile = ([], .ok m') ∧
        ((emptyOrders "shop" "/a").module.chunksOf 10).map (·.map ModuleSpec.contentKey) =
          (m'.module.chunksOf 10).map (·.map ModuleSpec.contentKey) := by
  have hfile : (checkout "a" shopPayload).tree.at? ["a"] ordersFile =
      some (.file (encodeText shopPayload)) := rfl
  have hfile' : (checkout "b" shopPayload).tree.at? ["b"] ordersFile =
      some (.file (encodeText shopPayload)) := rfl
  have hload : load (checkout "a" shopPayload) ordersFile =
      ([], .ok (emptyOrders "shop" "/a")) := by
    decide +kernel
  have hnames : ((payload (checkout "a" shopPayload) ordersFile).toOption.bind fun es =>
      (Value.entry? (.str "projectName") es).bind asString?) = some "shop" := by
    decide +kernel
  obtain ⟨entries, m', hpayload, hload', -, hkeys, -⟩ :=
    contentKeys_of_checkouts rfl hfile hfile' hload
  have hnamed : NamesProject entries := by
    rw [hpayload] at hnames
    obtain ⟨v, hv, hshop⟩ : ∃ v, entry? (.str "projectName") entries = some v ∧
        v.asString? = some "shop" :=
      Option.bind_eq_some_iff.mp hnames
    refine ⟨v, hv, ?_⟩
    unfold asString? at hshop
    split at hshop
    · rw [Option.some.inj hshop]
      rfl
    · exact absurd hshop nofun
  exact ⟨hfile, hfile', hload, m', hload', hkeys (.inl hnamed) 10⟩

/-- Two checkouts of a project that is not named have different keys. -/
theorem contentKeys_differ_unnamed :
    load (checkout "a" "\x7b\x7d") ordersFile = ([], .ok (emptyOrders "a" "/a")) ∧
      load (checkout "b" "\x7b\x7d") ordersFile = ([], .ok (emptyOrders "b" "/b")) ∧
      ((emptyOrders "a" "/a").module.chunksOf 10).map (·.map ModuleSpec.contentKey) ≠
        ((emptyOrders "b" "/b").module.chunksOf 10).map (·.map ModuleSpec.contentKey) := by
  refine ⟨?_, ?_, ?_⟩
  · decide +kernel
  · decide +kernel
  · decide +kernel

end ModuleInput

end ServiceMigration
