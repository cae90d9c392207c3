import ServiceMigration.Cache.Basic
import ServiceMigration.Proofs.Cache.Key
import ServiceMigration.Proofs.Files.Tree
import ServiceMigration.Proofs.Text.Hex
/-!
# Entries of a cache

Where the entry of a chunk is, and what a lookup makes of what is there.  An entry is named by a
digest, so its name is a single name that every directory can hold.  A lookup takes nearly
everything for a miss that is no answer; two kinds of files it does not get over
(`Cache.Unreadable`): one whose bytes are no text, and one with a number of too many digits.  Nor
does it get over a chunk that has no key (`Cache.LacksKey`, `Cache.lookup_error_iff`).
-/

namespace ServiceMigration

/-! ### Names of entries -/

namespace Text

theorem splitAt_eq_singleton {mark : Char} {cs : List Char} (h : mark ∉ cs) :
    splitAt mark cs = [cs] := by
  induction cs with
  | nil => rfl
  | cons c cs ih =>
    obtain ⟨hc, hcs⟩ : mark ≠ c ∧ mark ∉ cs := by simpa using h
    simp [splitAt, ih hcs, Ne.symm hc]

/-- A text of the first 128 characters has a byte for each. -/
theorem utf8ByteSize_ofList {cs : List Char} (h : ∀ c ∈ cs, c.utf8Size = 1) :
    (String.ofList cs).utf8ByteSize = cs.length := by
  induction cs with
  | nil => rfl
  | cons c cs ih =>
    obtain ⟨hc, hcs⟩ := List.forall_mem_cons.mp h
    rw [String.ofList_cons, String.utf8ByteSize_append, String.utf8ByteSize_singleton, hc, ih hcs,
      List.length_cons, Nat.add_comm]

end Text

namespace Digest

theorem mem_hexDigits_of_mem_sha256Hex {c : Char} {text : String}
    (h : c ∈ (sha256Hex text).toList) :
    c ∈ Text.hexDigits := by
  rw [sha256Hex, String.toList_ofList] at h
  obtain ⟨w, -, h⟩ := List.mem_flatMap.mp h
  exact Text.mem_hexDigits_of_mem_hex h

theorem length_sha256Hex (text : String) : (sha256Hex text).toList.length = 64 := by
  have hword : ∀ w : UInt32, (Text.hex 8 w.toNat).length = 8 := by
    intro w
    have hdigits : (Nat.toDigits 16 w.toNat).length ≤ 8 :=
      (Nat.length_toDigits_le_iff (by decide) (by decide)).mpr w.toNat_lt
    exact Text.length_hex hdigits
  rw [sha256Hex, String.toList_ofList]
  simp only [sha256, List.flatMap_cons, List.flatMap_nil, List.length_append, hword,
    List.length_nil]

end Digest

namespace Cache

/-- A key as chunks have it: the digest of some text. -/
def IsKey (key : String) : Prop := ∃ text, Digest.sha256Hex text = key

theorem isKey_of_contentKey {m : ModuleSpec} {key : String} (h : m.contentKey = some key) :
    IsKey key := by
  obtain ⟨text, -, hdigest⟩ := ModuleSpec.contentKey_eq_some_iff.mp h
  exact ⟨text, hdigest⟩

theorem keyOf_of_contentKey {m : ModuleSpec} {key : String} (h : m.contentKey = some key) :
    keyOf m = .ok key := by
  rw [keyOf, h]

theorem keyOf_of_none {m : ModuleSpec} (h : m.contentKey = none) :
    keyOf m = .error (.badValue .tooLongToWrite) := by
  rw [keyOf, h]

variable {key : String}

theorem mem_entryName {ch : Char} (hkey : IsKey key) (h : ch ∈ (entryName key).toList) :
    ch ∈ Text.hexDigits ++ ".json".toList := by
  obtain ⟨text, rfl⟩ := hkey
  rw [entryName, String.toList_append] at h
  rcases List.mem_append.mp h with h | h
  · exact List.mem_append_left _ (Digest.mem_hexDigits_of_mem_sha256Hex h)
  · exact List.mem_append_right _ h

theorem length_entryName (hkey : IsKey key) : (entryName key).toList.length = 69 := by
  obtain ⟨text, rfl⟩ := hkey
  rw [entryName, String.toList_append, List.length_append]
  exact congrArg (· + 5) (Digest.length_sha256Hex _)

theorem slash_notMem_entryName (hkey : IsKey key) : '/' ∉ (entryName key).toList := fun h =>
  absurd (mem_entryName hkey h) (by decide)

theorem entryName_ne {name : String} (hkey : IsKey key) (h : name.toList.length ≠ 69) :
    entryName key ≠ name := fun he =>
  h (he ▸ length_entryName hkey)

/-- The name of an entry is one name below a directory. -/
theorem ofString_entryName (hkey : IsKey key) :
    Path.ofString (entryName key) = { root := "", parts := [entryName key] } := by
  have hslash := slash_notMem_entryName hkey
  have hroot : Path.rootOf (entryName key) = "" := by
    unfold Path.rootOf
    split <;> simp_all
  have hnames : Path.namesOf (entryName key) = [entryName key] := by
    have hempty : entryName key ≠ "" := entryName_ne hkey (by decide)
    have hdot : entryName key ≠ "." := entryName_ne hkey (by decide)
    simp [Path.namesOf, Text.splitAt_eq_singleton hslash, hempty, hdot]
  rw [Path.ofString, hroot, hnames]

theorem isTooLong_entryName (hkey : IsKey key) : FileTree.isTooLong (entryName key) = false := by
  have hascii : (Text.hexDigits ++ ".json".toList).all (·.utf8Size == 1) = true := by decide
  have hbytes : ∀ ch ∈ (entryName key).toList, ch.utf8Size = 1 := fun ch h =>
    eq_of_beq (List.all_eq_true.mp hascii ch (mem_entryName hkey h))
  have hsize : (entryName key).utf8ByteSize = 69 := by
    rw [← String.ofList_toList (s := entryName key), Text.utf8ByteSize_ofList hbytes,
      length_entryName hkey]
  simp [FileTree.isTooLong, hsize]

theorem child_entryName (d : Path) (hkey : IsKey key) :
    d.child (entryName key) = { d with parts := d.parts ++ [entryName key] } := by
  rw [Path.child, ofString_entryName hkey]
  rfl

/-- Below a directory the place of an entry is that of its name. -/
theorem locate_entryName {t : FileTree} {cwd place : List String} {d : Path} (hkey : IsKey key)
    (hlocate : t.locate cwd d = .ok place) (hplace : t.get? place = some .directory) :
    t.locate cwd (d.child (entryName key)) = .ok (place ++ [entryName key]) := by
  rw [child_entryName d hkey]
  exact FileTree.locate_append_singleton hlocate hplace (entryName_ne hkey (by decide))
    (isTooLong_entryName hkey)

end Cache

/-! ### What a file says -/

namespace FileTree

variable {t : FileTree} {cwd : List String} {p : Path}

theorem read_eq_ok_iff {content : ByteArray} :
    t.read cwd p = .ok content ↔ t.at? cwd p = some (.file content) := by
  unfold read at?
  cases t.locate cwd p with
  | error problem => simp
  | ok place =>
    cases hget : t.get? place with
    | none => simp [hget]
    | some entry => cases entry <;> simp [hget]

theorem readText_eq_ok_iff {text : String} :
    t.readText cwd p = .ok text ↔
      ∃ content, t.at? cwd p = some (.file content) ∧ decodeText? content = some text := by
  simp only [← read_eq_ok_iff]
  unfold readText
  cases t.read cwd p with
  | error e => simp
  | ok content => cases hdecode : decodeText? content <;> simp [hdecode]

theorem readText_eq_undecodable_iff :
    t.readText cwd p = .error .undecodable ↔
      ∃ content, t.at? cwd p = some (.file content) ∧ decodeText? content = none := by
  simp only [← read_eq_ok_iff]
  unfold readText
  cases t.read cwd p with
  | error e => simp
  | ok content => cases hdecode : decodeText? content <;> simp [hdecode]

end FileTree

/-! ### Lookups -/

/-- Two workspaces with the same files, seen from the same directory. -/
structure Workspace.SameFiles (w w' : Workspace) : Prop where
  tree : w.tree = w'.tree
  cwd : w.cwd = w'.cwd

namespace Cache

variable {c : Cache} {m : ModuleSpec} {w : Workspace}

/-- What is at the path of the entry of a chunk; a chunk without a key has none. -/
def entryAt? (c : Cache) (m : ModuleSpec) (w : Workspace) : Option FileEntry :=
  match c.pathOf m with
  | .ok (some p) => w.tree.at? w.cwd p
  | _ => none

theorem entryAt?_of_key {d : Path} {key : String} (hd : c.directory = some d)
    (hkey : m.contentKey = some key) :
    c.entryAt? m w = w.tree.at? w.cwd (d.child (entryName key)) := by
  rw [entryAt?, pathOf, hd, keyOf_of_contentKey hkey]
  rfl

theorem entryAt?_of_none {d : Path} (hd : c.directory = some d) (hkey : m.contentKey = none) :
    c.entryAt? m w = none := by
  rw [entryAt?, pathOf, hd, keyOf_of_none hkey]
  rfl

/-- The entry of a chunk is in the directory of the cache, where that is one. -/
theorem entryAt?_eq_get? {d : Path} {key : String} (place : List String) (hd : c.directory = some d)
    (hkey : m.contentKey = some key) (hplace : w.tree.locate w.cwd d = .ok place)
    (hget : w.tree.get? place = some .directory) :
    c.entryAt? m w = w.tree.get? (place ++ [entryName key]) := by
  rw [entryAt?_of_key hd hkey, FileTree.at?,
    locate_entryName (isKey_of_contentKey hkey) hplace hget]

/-- A cache that is on and has a directory; any other keeps nothing and finds nothing. -/
def IsUsed (c : Cache) : Prop := c.enabled = true ∧ ∃ d, c.directory = some d

/-- A cache is used, and a chunk has no key to use it with. -/
def LacksKey (c : Cache) (m : ModuleSpec) : Prop := c.IsUsed ∧ m.contentKey = none

/-- The entry of a chunk is a file that a lookup does not get over: its bytes are no text, or the
text has a number of too many digits. -/
def Unreadable (c : Cache) (m : ModuleSpec) (w : Workspace) : Prop :=
  c.enabled = true ∧ ∃ content, c.entryAt? m w = some (.file content) ∧
    (decodeText? content = none ∨
      ∃ text count, decodeText? content = some text ∧
        ApiSpec.parse text = .error (.tooManyDigits count))

/-! The three cases of a lookup. -/

theorem lookupUnder_of_not_isUsed (h : ¬ c.IsUsed) (fault : Option FileError) :
    c.lookupUnder fault m w = (.ok none, w) := by
  unfold lookupUnder
  split
  · next d henabled hd => exact absurd ⟨henabled, d, hd⟩ h
  · rfl

theorem lookup_of_not_isUsed (h : ¬ c.IsUsed) : c.lookup m w = (.ok none, w) :=
  lookupUnder_of_not_isUsed h none

theorem lookup_of_lacksKey (h : c.LacksKey m) :
    c.lookup m w = (.error (.badValue .tooLongToWrite), w) := by
  obtain ⟨⟨henabled, d, hd⟩, hkey⟩ := h
  simp only [lookup, lookupUnder, henabled, hd, keyOf_of_none hkey]

theorem lookup_of_key {d : Path} {key : String} (henabled : c.enabled = true)
    (hd : c.directory = some d) (hkey : m.contentKey = some key) :
    c.lookup m w =
      ((readEntry (entryName key) (w.tree.readText w.cwd (d.child (entryName key)))).1,
        w.recordAll (readEntry (entryName key)
          (w.tree.readText w.cwd (d.child (entryName key)))).2) := by
  simp only [lookup, lookupUnder, henabled, hd, keyOf_of_contentKey hkey]

/-- A lookup is made in a cache that is not used, or without a key, or it reads an entry. -/
theorem lookup_cases (c : Cache) (m : ModuleSpec) :
    ¬ c.IsUsed ∨ c.LacksKey m ∨ ∃ d key, c.enabled = true ∧ c.directory = some d ∧
      m.contentKey = some key := by
  by_cases hused : c.IsUsed
  · obtain ⟨henabled, d, hd⟩ := hused
    cases hkey : m.contentKey with
    | none => exact .inr (.inl ⟨⟨henabled, d, hd⟩, hkey⟩)
    | some key => exact .inr (.inr ⟨d, key, henabled, hd, rfl⟩)
  · exact .inl hused

/-- Only what has an entry can have an unreadable one. -/
theorem exists_of_entryAt? {entry : FileEntry} (h : c.entryAt? m w = some entry) :
    ∃ d key, c.directory = some d ∧ m.contentKey = some key := by
  cases hd : c.directory with
  | none => simp [entryAt?, pathOf, hd] at h
  | some d =>
    cases hkey : m.contentKey with
    | none => simp [entryAt?_of_none hd hkey] at h
    | some key => exact ⟨d, key, rfl, rfl⟩

/-- A reading fails on bytes that are no text and on numbers of too many digits.  Everything else
that can be wrong with an entry counts as a miss. -/
theorem readEntry_eq_error_iff {name : String} {r : Except ContentProblem String} :
    (∃ e, (readEntry name r).1 = .error e) ↔
      r = .error .undecodable ∨
        ∃ text count, r = .ok text ∧ ApiSpec.parse text = .error (.tooManyDigits count) := by
  unfold readEntry
  split
  · split <;> simp
  · simp
  · next text =>
    cases hparse : ApiSpec.parse text with
    | ok answer => simp [hparse]
    | error e => cases e <;> simp [hparse]

theorem readEntry_unreadable {name : String} (e : FileError) :
    (readEntry name (.error (.unreadable e))).1 = .ok none := by
  simp only [readEntry]
  split <;> rfl

/-- A reading that fails writes nothing down. -/
theorem records_readEntry_of_error {name : String} {r : Except ContentProblem String} {e : Failure}
    (h : (readEntry name r).1 = .error e) : (readEntry name r).2 = [] := by
  revert h
  unfold readEntry
  split
  · split <;> simp
  · simp
  · split <;> simp

/-- A lookup of a chunk with a key fails exactly when the entry is one that it does not get over. -/
theorem lookup_error_iff_of_key {d : Path} {key : String} (henabled : c.enabled = true)
    (hd : c.directory = some d) (hkey : m.contentKey = some key) :
    (∃ e, (c.lookup m w).1 = .error e) ↔ c.Unreadable m w := by
  rw [lookup_of_key henabled hd hkey, readEntry_eq_error_iff, FileTree.readText_eq_undecodable_iff]
  simp only [FileTree.readText_eq_ok_iff, Unreadable, henabled, entryAt?_of_key hd hkey, true_and]
  constructor
  · rintro (⟨content, hat, hdecode⟩ | ⟨text, count, ⟨content, hat, hdecode⟩, hparse⟩)
    · exact ⟨content, hat, .inl hdecode⟩
    · exact ⟨content, hat, .inr ⟨text, count, hdecode, hparse⟩⟩
  · rintro ⟨content, hat, hdecode | ⟨text, count, hdecode, hparse⟩⟩
    · exact .inl ⟨content, hat, hdecode⟩
    · exact .inr ⟨text, count, ⟨content, hat, hdecode⟩, hparse⟩

theorem Unreadable.exists_key (h : c.Unreadable m w) :
    ∃ d key, c.enabled = true ∧ c.directory = some d ∧ m.contentKey = some key := by
  obtain ⟨henabled, content, hentry, -⟩ := h
  obtain ⟨d, key, hd, hkey⟩ := exists_of_entryAt? hentry
  exact ⟨d, key, henabled, hd, hkey⟩

/-- A lookup fails exactly when there is no key to look up, or the entry is one that it does not get
over. -/
theorem lookup_error_iff :
    (∃ e, (c.lookup m w).1 = .error e) ↔ c.LacksKey m ∨ c.Unreadable m w := by
  rcases lookup_cases c m with hunused | hlacks | ⟨d, key, henabled, hd, hkey⟩
  · have hlacks : ¬ c.LacksKey m := fun h => hunused h.1
    have hreadable : ¬ c.Unreadable m w := fun h => by
      obtain ⟨d, -, henabled, hd, -⟩ := h.exists_key
      exact hunused ⟨henabled, d, hd⟩
    simp [lookup_of_not_isUsed hunused, hlacks, hreadable]
  · simp [lookup_of_lacksKey hlacks, hlacks]
  · have hhas : ¬ c.LacksKey m := fun h => by simp [LacksKey, hkey] at h
    simp only [lookup_error_iff_of_key henabled hd hkey, hhas, false_or]

theorem lookup_workspace_of_error {e : Failure} (h : (c.lookup m w).1 = .error e) :
    (c.lookup m w).2 = w := by
  rcases lookup_cases c m with hunused | hlacks | ⟨d, key, henabled, hd, hkey⟩
  · rw [lookup_of_not_isUsed hunused]
  · rw [lookup_of_lacksKey hlacks]
  · rw [lookup_of_key henabled hd hkey] at h ⊢
    simp only [records_readEntry_of_error h, Workspace.recordAll, List.append_nil]

/-- There is no entry that a lookup could read: the cache is off, or no file is at the path of
one. -/
def HoldsNothing (c : Cache) (w : Workspace) : Prop :=
  c.enabled = true → ∀ m content, c.entryAt? m w ≠ some (.file content)

/-- Without an entry a lookup is a miss, if there is a key to look up. -/
theorem lookup_of_holdsNothing (h : c.HoldsNothing w) (hkey : ¬ c.LacksKey m) :
    (c.lookup m w).1 = .ok none := by
  rcases lookup_cases c m with hunused | hlacks | ⟨d, key, henabled, hd, hkey⟩
  · rw [lookup_of_not_isUsed hunused]
  · exact absurd hlacks hkey
  · have hfile : ∀ content, w.tree.at? w.cwd (d.child (entryName key)) ≠ some (.file content) :=
      fun content => by
        rw [← entryAt?_of_key hd hkey]
        exact h henabled m content
    rw [lookup_of_key henabled hd hkey]
    cases hread : w.tree.readText w.cwd (d.child (entryName key)) with
    | ok text =>
      obtain ⟨content, hat, -⟩ := FileTree.readText_eq_ok_iff.mp hread
      exact absurd hat (hfile content)
    | error problem =>
      cases problem with
      | unreadable e => exact readEntry_unreadable e
      | undecodable =>
        obtain ⟨content, hat, -⟩ := FileTree.readText_eq_undecodable_iff.mp hread
        exact absurd hat (hfile content)

theorem lookup_files (c : Cache) (m : ModuleSpec) (w : Workspace) :
    (c.lookup m w).2.SameFiles w := by
  rcases lookup_cases c m with hunused | hlacks | ⟨d, key, henabled, hd, hkey⟩
  · rw [lookup_of_not_isUsed hunused]
    exact ⟨rfl, rfl⟩
  · rw [lookup_of_lacksKey hlacks]
    exact ⟨rfl, rfl⟩
  · rw [lookup_of_key henabled hd hkey]
    exact ⟨rfl, rfl⟩

theorem HoldsNothing.of_sameFiles {w' : Workspace} (h : c.HoldsNothing w) (hw : w'.SameFiles w) :
    c.HoldsNothing w' := by
  intro henabled m content
  unfold entryAt?
  rw [hw.tree, hw.cwd]
  exact h henabled m content

end Cache

end ServiceMigration
