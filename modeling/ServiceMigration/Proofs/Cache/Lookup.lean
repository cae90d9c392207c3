import ServiceMigration.Proofs.Cache.Entry
/-!
# What a lookup comes to

A lookup gives the answer that the entry of a chunk holds, and a miss where there is none.  Whatever
else is at the path of the entry is a miss too, but for the two kinds of files on which a lookup
ends the run (`Cache.Unreadable`); without a key there is no entry to speak of, and the run ends as
well (`Cache.LacksKey`).  Main statement: `Cache.lookup_outcome`.
-/

namespace ServiceMigration.Cache

/-- The entry of a chunk is a file whose text is read as an answer. -/
def Holds (c : Cache) (m : ModuleSpec) (w : Workspace) (s : ApiSpec) : Prop :=
  c.enabled = true ∧ ∃ content text, c.entryAt? m w = some (.file content) ∧
    decodeText? content = some text ∧ ApiSpec.parse text = .ok s

/-- An outcome of a lookup is the one that the state of the entry asks for. -/
structure LooksUp (c : Cache) (m : ModuleSpec) (w : Workspace)
    (r : Except Failure (Option ApiSpec)) : Prop where
  hit : ∀ s, r = .ok (some s) ↔ c.Holds m w s
  raises : (∃ e, r = .error e) ↔ c.LacksKey m ∨ c.Unreadable m w
  miss : r = .ok none ↔ ¬ (c.LacksKey m ∨ c.Unreadable m w) ∧ ∀ s, ¬ c.Holds m w s

variable {c : Cache} {m : ModuleSpec} {w : Workspace}

theorem readEntry_eq_some_iff {name : String} {r : Except ContentProblem String} {s : ApiSpec} :
    (readEntry name r).1 = .ok (some s) ↔ ∃ text, r = .ok text ∧ ApiSpec.parse text = .ok s := by
  unfold readEntry
  split
  · split <;> simp
  · simp
  · next text =>
    cases hparse : ApiSpec.parse text with
    | ok answer => simp [hparse]
    | error e => cases e <;> simp [hparse]

theorem lookup_eq_some_iff {s : ApiSpec} : (c.lookup m w).1 = .ok (some s) ↔ c.Holds m w s := by
  rcases lookup_cases c m with hunused | ⟨⟨henabled, d, hd⟩, hnone⟩ | ⟨d, key, henabled, hd, hkey⟩
  · have hnot : ¬ c.Holds m w s := fun ⟨henabled, content, text, hentry, _⟩ => by
      obtain ⟨d, -, hd, -⟩ := exists_of_entryAt? hentry
      exact hunused ⟨henabled, d, hd⟩
    simp [lookup_of_not_isUsed hunused, hnot]
  · have hnot : ¬ c.Holds m w s := fun ⟨_, content, text, hentry, _⟩ => by
      simp [entryAt?_of_none hd hnone] at hentry
    simp [lookup_of_lacksKey ⟨⟨henabled, d, hd⟩, hnone⟩, hnot]
  · rw [lookup_of_key henabled hd hkey, readEntry_eq_some_iff]
    simp only [FileTree.readText_eq_ok_iff, Holds, henabled, entryAt?_of_key hd hkey, true_and]
    constructor
    · rintro ⟨text, ⟨content, hat, hdecode⟩, hparse⟩
      exact ⟨content, text, hat, hdecode, hparse⟩
    · rintro ⟨content, text, hat, hdecode, hparse⟩
      exact ⟨text, ⟨content, hat, hdecode⟩, hparse⟩

/-- An entry that the system does not let be read is a miss. -/
theorem lookupUnder_fault (hkey : ¬ c.LacksKey m) (e : FileError) :
    (c.lookupUnder (some e) m w).1 = .ok none := by
  rcases lookup_cases c m with hunused | hlacks | ⟨d, key, henabled, hd, hkey⟩
  · rw [lookupUnder_of_not_isUsed hunused]
  · exact absurd hlacks hkey
  · simp only [lookupUnder, henabled, hd, keyOf_of_contentKey hkey]
    exact readEntry_unreadable e

/-- A lookup comes to what its entry asks for, and where the system does not let the entry be read,
for whatever reason, it is a miss. -/
theorem lookup_outcome (c : Cache) (m : ModuleSpec) (w : Workspace) :
    LooksUp c m w (c.lookup m w).1 ∧
      (¬ c.LacksKey m → ∀ e, (c.lookupUnder (some e) m w).1 = .ok none) := by
  refine ⟨⟨fun s => lookup_eq_some_iff, lookup_error_iff, ?_⟩, lookupUnder_fault⟩
  simp only [← lookup_error_iff, ← lookup_eq_some_iff]
  -- the three kinds of outcomes exclude one another
  rcases (c.lookup m w).1 with e | (_ | s) <;> simp

/-! ### A file that was cut short -/

def tornCache : Cache := { directory := some (.ofString "cache"), enabled := true }

/-- The entry under a key is the start of an answer, up to the first byte of a letter that has
two. -/
def tornWorkspace (key : String) : Workspace where
  tree.entries := [(["cache"], .directory), (["cache", entryName key], .file ⟨#[0x7B, 0xC3]⟩)]

theorem unreadable_tornWorkspace {m : ModuleSpec} {key : String} (hkey : m.contentKey = some key) :
    tornCache.Unreadable m (tornWorkspace key) := by
  have hentry : tornCache.entryAt? m (tornWorkspace key) = some (.file ⟨#[0x7B, 0xC3]⟩) := by
    rw [entryAt?_eq_get? ["cache"] rfl hkey rfl rfl]
    simp [tornWorkspace, FileTree.get?, List.lookup_cons]
  have hcut : decodeText? ⟨#[0x7B, 0xC3]⟩ = none := by decide
  exact ⟨rfl, _, hentry, .inl hcut⟩

def unansweredModule : ModuleSpec where
  projectName := "shop"
  moduleName := "core"

def unansweredKey : String := unansweredModule.contentKey.getD ""

theorem contentKey_unansweredModule : unansweredModule.contentKey = some unansweredKey :=
  ModuleSpec.contentKey_of_written (by decide)

theorem lookup_torn_raises :
    ¬ ∃ answer, (tornCache.lookup unansweredModule (tornWorkspace unansweredKey)).1 =
      .ok answer := by
  obtain ⟨e, he⟩ :=
    lookup_error_iff.mpr (.inr (unreadable_tornWorkspace contentKey_unansweredModule))
  rintro ⟨answer, hok⟩
  rw [he] at hok
  exact absurd hok (by simp)

end ServiceMigration.Cache
