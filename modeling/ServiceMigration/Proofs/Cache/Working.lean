import ServiceMigration.Proofs.Api.Answer
import ServiceMigration.Proofs.Cache.Footprint
import ServiceMigration.Proofs.Cache.Lookup
/-!
# A cache that works

A cache works in a place where its directory is and where nothing stands in the way of an entry
(`Cache.WorksIn`).  There a store changes the one file of its entry (`WorksIn.store_spec`), and a
lookup depends on that file alone (`WorksIn.lookup_fst`).  What the files of entries held before is
of no account: they may hold anything.
-/

namespace ServiceMigration

namespace Cache

variable {c : Cache} {m : ModuleSpec} {w w' : Workspace} {place : List String} {answer : ApiSpec}

structure WorksIn (c : Cache) (place : List String) (w : Workspace) : Prop where
  enabled : c.enabled = true
  located : ∃ d, c.directory = some d ∧ w.tree.locate w.cwd d = .ok place
  directory : w.tree.get? place = some .directory
  entries : ∀ (m : ModuleSpec) (key : String), m.contentKey = some key →
    w.tree.get? (place ++ [entryName key]) ≠ some .directory

theorem WorksIn.of_sameFiles (h : c.WorksIn place w) (hw : w'.SameFiles w) :
    c.WorksIn place w' := by
  obtain ⟨d, hd, hlocate⟩ := h.located
  refine ⟨h.enabled, ⟨d, hd, ?_⟩, ?_, fun m key hkey => ?_⟩
  · rw [hw.tree, hw.cwd, hlocate]
  · rw [hw.tree, h.directory]
  · rw [hw.tree]
    exact h.entries m key hkey

theorem WorksIn.isUsed (h : c.WorksIn place w) : c.IsUsed := by
  obtain ⟨d, hd, -⟩ := h.located
  exact ⟨h.enabled, d, hd⟩

/-! ### Stores -/

theorem not_isTemporaryName_entryName {key : String} (hkey : IsKey key) :
    ¬ Storing.IsTemporaryName (entryName key) :=
  fun h => h.ne_entryName hkey rfl

theorem bytesOf_eq_some_iff {bytes : List UInt8} :
    bytesOf answer = some bytes ↔
      ∃ text, answer.prettyText = some text ∧ (encodeText text).toList = bytes :=
  Option.map_eq_some_iff

/-- A store of an answer that can be written changes the file of its entry and nothing else. -/
theorem WorksIn.store_spec {key text : String} (h : c.WorksIn place w)
    (hkey : m.contentKey = some key) (htext : answer.prettyText = some text) :
    ∃ tree, c.store m answer w = (.ok (), { w with tree }) ∧ tree.get? =
      Function.update w.tree.get? (place ++ [entryName key]) (some (.file (encodeText text))) := by
  obtain ⟨d, hd, hlocate⟩ := h.located
  have hjob : ¬ Storing.IsTemporaryName (job d key answer).name :=
    not_isTemporaryName_entryName (isKey_of_contentKey hkey)
  obtain ⟨tree, hrun, hget⟩ := Storing.run_spec hlocate h.directory hjob (h.entries m key hkey)
    (bytesOf_eq_some_iff.mpr ⟨text, htext, rfl⟩)
  rw [byteArray_of_toList] at hget
  refine ⟨tree, ?_, hget⟩
  rw [store, storeUnder_of_key h.enabled hd hkey, hrun, settle]

/-- A store of an answer that cannot be written fails, and leaves an empty temporary file. -/
theorem WorksIn.store_of_no_text {key : String} (h : c.WorksIn place w)
    (hkey : m.contentKey = some key) (htext : answer.prettyText = none) :
    ∃ tree name, c.store m answer w = (.error (.badValue .tooLongToWrite), { w with tree }) ∧
      Storing.IsTemporaryName name ∧ w.tree.get? (place ++ [name]) = none ∧
        tree.get? = Function.update w.tree.get? (place ++ [name]) (some (.file ⟨#[]⟩)) := by
  obtain ⟨d, hd, hlocate⟩ := h.located
  have hcontent : (job d key answer).content = none := Option.map_eq_none_iff.mpr htext
  obtain ⟨tree, name, hrun, hname, hfree, hget⟩ :=
    Storing.run_of_no_content hlocate h.directory hcontent
  refine ⟨tree, name, ?_, hname, hfree, hget⟩
  rw [store, storeUnder_of_key h.enabled hd hkey, hrun, settle]

/-- A store that succeeds has put the text of its answer into the file of its entry. -/
theorem WorksIn.exists_of_store (h : c.WorksIn place w)
    (hstore : c.store m answer w = (.ok (), w')) :
    ∃ key text, m.contentKey = some key ∧ answer.prettyText = some text ∧ w'.tree.get? =
      Function.update w.tree.get? (place ++ [entryName key]) (some (.file (encodeText text))) := by
  cases hkey : m.contentKey with
  | none =>
    rw [Cache.store, storeUnder_of_lacksKey ⟨h.isUsed, hkey⟩] at hstore
    cases hstore
  | some key =>
    cases htext : answer.prettyText with
    | none =>
      obtain ⟨_, _, hfails, -⟩ := h.store_of_no_text hkey htext
      rw [hfails] at hstore
      cases hstore
    | some text =>
      obtain ⟨_, hstores, hget⟩ := h.store_spec hkey htext
      obtain ⟨-, rfl⟩ := Prod.mk.inj (hstores.symm.trans hstore)
      exact ⟨key, text, rfl, rfl, hget⟩

/-- A store changes no directory and puts none in the place of an entry, so the cache goes on
working. -/
theorem WorksIn.of_update {tree : FileTree} {content : ByteArray} {name : String}
    (h : c.WorksIn place w) (hname : w.tree.get? (place ++ [name]) ≠ some .directory)
    (hget : tree.get? = Function.update w.tree.get? (place ++ [name]) (some (.file content))) :
    c.WorksIn place { w with tree } := by
  obtain ⟨d, hd, hlocate⟩ := h.located
  have hkeeps : tree.HasDirectoriesOf w.tree := FileTree.hasDirectoriesOf_update hget hname
  refine ⟨h.enabled, ⟨d, hd, FileTree.locate_eq hkeeps hlocate⟩, hkeeps _ h.directory,
    fun m key hkey => ?_⟩
  by_cases he : place ++ [entryName key] = place ++ [name]
  · rw [hget, he, Function.update_self]
    simp
  · rw [hget, Function.update_of_ne he]
    exact h.entries m key hkey

theorem WorksIn.store (h : c.WorksIn place w) (m : ModuleSpec) (answer : ApiSpec) :
    c.WorksIn place (c.store m answer w).2 := by
  cases hkey : m.contentKey with
  | none =>
    rw [Cache.store, storeUnder_of_lacksKey ⟨h.isUsed, hkey⟩]
    exact h
  | some key =>
    cases htext : answer.prettyText with
    | none =>
      obtain ⟨tree, name, hstore, -, hfree, hget⟩ := h.store_of_no_text hkey htext
      rw [hstore]
      exact h.of_update (by simp [hfree]) hget
    | some text =>
      obtain ⟨tree, hstore, hget⟩ := h.store_spec hkey htext
      rw [hstore]
      exact h.of_update (h.entries m key hkey) hget

/-! ### Lookups -/

/-- What a lookup comes to when this is at the place of the entry. -/
def outcomeAt (name : String) : Option FileEntry → Except Failure (Option ApiSpec)
  | some (.file content) =>
    match decodeText? content with
    | some text => (readEntry name (.ok text)).1
    | none => (readEntry name (.error .undecodable)).1
  | some .directory | none => .ok none

theorem outcomeAt_encodeText {text : String} (name : String)
    (htext : answer.prettyText = some text) :
    outcomeAt name (some (.file (encodeText text))) = (readEntry name (.ok text)).1 := by
  simp only [outcomeAt, decodeText?_prettyText htext]

theorem readEntry_of_parse {name text : String} (h : ApiSpec.parse text = .ok answer) :
    (readEntry name (.ok text)).1 = .ok (some answer) :=
  readEntry_eq_some_iff.mpr ⟨text, rfl, h⟩

/-- A lookup in a directory that is there comes to what the place of the entry says. -/
theorem lookup_fst_of_located {d : Path} {key : String} (henabled : c.enabled = true)
    (hd : c.directory = some d) (hlocate : w.tree.locate w.cwd d = .ok place)
    (hplace : w.tree.get? place = some .directory) (hkey : m.contentKey = some key) :
    (c.lookup m w).1 = outcomeAt (entryName key) (w.tree.get? (place ++ [entryName key])) := by
  have hentry := locate_entryName (isKey_of_contentKey hkey) hlocate hplace
  rw [lookup_of_key henabled hd hkey]
  simp only [FileTree.readText, FileTree.read, hentry]
  rcases w.tree.get? (place ++ [entryName key]) with _ | _ | content
  · exact readEntry_unreadable _
  · exact readEntry_unreadable _
  · simp only [outcomeAt]
    cases decodeText? content <;> rfl

theorem WorksIn.lookup_fst {key : String} (h : c.WorksIn place w) (hkey : m.contentKey = some key) :
    (c.lookup m w).1 = outcomeAt (entryName key) (w.tree.get? (place ++ [entryName key])) := by
  obtain ⟨d, hd, hlocate⟩ := h.located
  exact lookup_fst_of_located h.enabled hd hlocate h.directory hkey

end Cache

end ServiceMigration
