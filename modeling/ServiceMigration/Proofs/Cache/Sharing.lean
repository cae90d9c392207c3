import ServiceMigration.Proofs.Cache.Interleaving
import ServiceMigration.Proofs.Cache.Working
/-!
# A cache in use by many

Whatever calls use the directory of a cache at the same time, no entry is torn (`Sharing.untorn`).
The invariant (`Sharing.Sound`) is that an entry is as it was at the start or has the complete text
of one store, that every temporary file belongs to one store and has as much of its text as that
store has written, and that a lookup has opened nothing else than such an entry.
-/

namespace ServiceMigration.Cache

namespace Sharing

variable {ι : Type} {place : List String} {start now : Sharing ι}

/-- No call has taken a step, and all know the directory at the place. -/
structure Starts (place : List String) (start : Sharing ι) : Prop where
  directory : start.tree.get? place = some .directory
  leads : ∀ i, start.tree.locate (start.calls i).caller.cwd (start.calls i).caller.directory =
    .ok place
  fresh : ∀ i, (start.calls i).fresh = start.calls i

/-- One of the calls is to store the answer under the key. -/
def Stores (start : Sharing ι) (key : String) (answer : ApiSpec) : Prop :=
  ∃ i caller chunk, start.calls i = .store caller chunk answer .creating ∧
    chunk.contentKey = some key

/-- What is at the place of an entry, or was there when it was opened: what was there at the start,
or the complete text of one store under the key. -/
def IsWhole (place : List String) (start : Sharing ι) (key : String) (entry : Option FileEntry) :
    Prop :=
  entry = start.tree.get? (place ++ [entryName key]) ∨
    ∃ answer text, start.Stores key answer ∧ answer.prettyText = some text ∧
      entry = some (.file (encodeText text))

/-! ### The invariant -/

/-- A lookup has opened nothing, or an entry that is whole, and comes to what such an entry says.
It fails if there is no key. -/
def ReadsWhole (place : List String) (start : Sharing ι) (chunk : ModuleSpec) : Reading → Prop
  | .opening => True
  | .opened found => ∀ content key, found = .ok content → chunk.contentKey = some key →
      start.IsWhole place key (some (.file content))
  | .done outcome =>
    outcome = .ok none ∨
      (chunk.contentKey = none ∧ outcome = .error (.badValue .tooLongToWrite)) ∨
        ∃ key entry, chunk.contentKey = some key ∧ start.IsWhole place key entry ∧
          outcome = outcomeAt (entryName key) entry

/-- What holds at all times: of the entries, of the temporary file and the rest to write of each
store, and of what each lookup has opened.  No two calls have one temporary file. -/
structure Sound (place : List String) (start now : Sharing ι) : Prop where
  directories : now.tree.HasDirectoriesOf start.tree
  calls : ∀ i, (now.calls i).fresh = start.calls i
  entries : ∀ key, IsKey key → start.IsWhole place key (now.tree.get? (place ++ [entryName key]))
  stores : ∀ i caller chunk answer phase, now.calls i = .store caller chunk answer phase →
    phase.IsIn place ∧ phase.Holds (bytesOf answer) now.tree
  apart : ∀ i j temporary, (now.calls i).temporary? = some temporary →
    (now.calls j).temporary? = some temporary → i = j
  lookups : ∀ i caller chunk reading, now.calls i = .lookup caller chunk reading →
    start.ReadsWhole place chunk reading

theorem place_entryName_ne {name key : String} (hname : Storing.IsTemporaryName name)
    (hkey : IsKey key) : place ++ [name] ≠ place ++ [entryName key] := by
  intro he
  exact hname.ne_entryName hkey (List.singleton_inj.mp (List.append_cancel_left he))

theorem sound_start (hstart : start.Starts place) : start.Sound place start := by
  have hnone : ∀ i, (start.calls i).temporary? = none := by
    intro i
    have hfresh := hstart.fresh i
    cases hcall : start.calls i with
    | store caller chunk answer phase =>
      rw [hcall] at hfresh
      obtain ⟨-, -, -, rfl⟩ := Call.store.inj hfresh
      rfl
    | lookup => rfl
  refine ⟨fun _ h => h, hstart.fresh, fun _ _ => .inl rfl, ?_, ?_, ?_⟩
  · intro i caller chunk answer phase hcall
    have hfresh := hstart.fresh i
    rw [hcall] at hfresh
    obtain ⟨-, -, -, rfl⟩ := Call.store.inj hfresh
    exact ⟨nofun, trivial⟩
  · intro i j temporary htemporary
    rw [hnone i] at htemporary
    exact absurd htemporary (by simp)
  · intro i caller chunk reading hcall
    have hfresh := hstart.fresh i
    rw [hcall] at hfresh
    obtain ⟨-, -, rfl⟩ := Call.lookup.inj hfresh
    trivial

namespace Sound

variable {i : ι} {caller : Caller} {chunk : ModuleSpec} {key : String} {answer : ApiSpec}
  {phase phase' : Storing.Phase} {t : FileTree}

/-- Callers still know the directory. -/
theorem located (h : Sound place start now) (hstart : start.Starts place) (i : ι) :
    now.tree.locate (now.calls i).caller.cwd (now.calls i).caller.directory = .ok place := by
  have hcaller : (now.calls i).caller = (start.calls i).caller := by
    rw [← h.calls i]
    cases now.calls i <;> rfl
  rw [hcaller]
  exact FileTree.locate_eq h.directories (hstart.leads i)

theorem stores_call (h : Sound place start now)
    (hcall : now.calls i = .store caller chunk answer phase) (hkey : chunk.contentKey = some key) :
    start.Stores key answer := by
  refine ⟨i, caller, chunk, ?_, hkey⟩
  rw [← h.calls i, hcall]
  rfl

/-- The step of a store leaves all entries whole. -/
theorem entries_moved (h : Sound place start now)
    (hcall : now.calls i = .store caller chunk answer phase) (hkey : chunk.contentKey = some key)
    (hmoved : Storing.Moved place (job caller.directory key answer) now.tree phase t phase')
    (other : String) (hother : IsKey other) :
    start.IsWhole place other (t.get? (place ++ [entryName other])) := by
  obtain ⟨hin, hholds⟩ := h.stores i caller chunk answer phase hcall
  by_cases hsameKey : other = key
  · subst hsameKey
    have hname : (job caller.directory other answer).name = entryName other := rfl
    rcases hmoved.get?_entry hin hholds (not_isTemporaryName_entryName hother) with hsame |
      ⟨bytes, hbytes, hnew⟩
    · rw [← hname, hsame]
      exact h.entries other hother
    · obtain ⟨text, htext, rfl⟩ := bytesOf_eq_some_iff.mp hbytes
      refine .inr ⟨answer, text, h.stores_call hcall hkey, htext, ?_⟩
      rw [← hname, hnew, byteArray_of_toList]
  · have hentry : place ++ [entryName other] ≠
        place ++ [(job caller.directory key answer).name] := by
      intro he
      have hname : other ++ ".json" = key ++ ".json" :=
        List.singleton_inj.mp (List.append_cancel_left he)
      exact hsameKey ((String.append_left_inj _).mp hname)
    have hnot : ∀ {phase : Storing.Phase}, phase.IsIn place →
        phase.temporary? ≠ some (place ++ [entryName other]) := by
      intro phase hphase htemporary
      obtain ⟨name, hname, htemp⟩ := hphase _ htemporary
      exact place_entryName_ne htemp hother hname.symm
    rw [hmoved.get?_eq hentry (hnot hin) (hnot (hmoved.isIn hin))]
    exact h.entries other hother

/-- The step of a store leaves the temporary files of other stores alone. -/
theorem holds_moved (h : Sound place start now)
    (hcall : now.calls i = .store caller chunk answer phase) (hkey : IsKey key)
    (hmoved : Storing.Moved place (job caller.directory key answer) now.tree phase t phase') {j : ι}
    (hne : j ≠ i) {caller' : Caller} {chunk' : ModuleSpec} {answer' : ApiSpec}
    {other : Storing.Phase} (hother : now.calls j = .store caller' chunk' answer' other) :
    other.Holds (bytesOf answer') t := by
  obtain ⟨hin, hholds⟩ := h.stores j caller' chunk' answer' other hother
  refine hholds.congr fun temporary htemporary => ?_
  have htemporary' : (now.calls j).temporary? = some temporary := by
    rw [hother]
    exact htemporary
  have hbefore : phase.temporary? ≠ some temporary := by
    intro hsame
    refine hne (h.apart j i temporary htemporary' ?_)
    rw [hcall]
    exact hsame
  obtain ⟨name, rfl, hname⟩ := hin _ htemporary
  refine hmoved.get?_eq (place_entryName_ne hname hkey) hbefore fun hafter => ?_
  rcases hmoved.temporary? hafter with hsame | hfree
  · exact hbefore hsame
  · obtain ⟨written, hfile⟩ := hholds.file htemporary
    rw [hfree] at hfile
    exact absurd hfile (by simp)

/-- No other store has the temporary file that a store has after a step. -/
theorem apart_moved (h : Sound place start now)
    (hcall : now.calls i = .store caller chunk answer phase)
    (hmoved : Storing.Moved place (job caller.directory key answer) now.tree phase t phase') {j : ι}
    (hne : j ≠ i) {temporary : List String}
    (htemporary : (now.calls j).temporary? = some temporary) :
    phase'.temporary? ≠ some temporary := by
  intro hafter
  cases hother : now.calls j with
  | lookup => simp [hother, Call.temporary?] at htemporary
  | store caller' chunk' answer' other =>
    obtain ⟨-, hholds⟩ := h.stores j caller' chunk' answer' other hother
    rcases hmoved.temporary? hafter with hsame | hfree
    · refine hne (h.apart j i temporary htemporary ?_)
      rw [hcall]
      exact hsame
    · rw [hother] at htemporary
      obtain ⟨written, hfile⟩ := hholds.file htemporary
      rw [hfree] at hfile
      exact absurd hfile (by simp)

/-- What a lookup opens is the entry as it is at that time. -/
theorem opened (h : Sound place start now) (hstart : start.Starts place)
    (hcall : now.calls i = .lookup caller chunk .opening) (hkey : chunk.contentKey = some key) :
    start.ReadsWhole place chunk
      (.opened (now.tree.read caller.cwd (caller.directory.child (entryName key)))) := by
  intro content key' hread hkey'
  obtain rfl := Option.some.inj (hkey.symm.trans hkey')
  have hlocate := h.located hstart i
  rw [hcall] at hlocate
  have hentry : now.tree.locate caller.cwd (caller.directory.child (entryName key)) =
      .ok (place ++ [entryName key]) :=
    locate_entryName (isKey_of_contentKey hkey) hlocate (h.directories _ hstart.directory)
  rw [FileTree.read_eq_ok_iff, FileTree.at?, hentry] at hread
  rw [← hread]
  exact h.entries key (isKey_of_contentKey hkey)

end Sound

/-! ### What a step keeps -/

variable [DecidableEq ι]

namespace Sound

variable {i : ι} {caller : Caller} {chunk : ModuleSpec} {key : String} {answer : ApiSpec}
  {phase phase' : Storing.Phase} {t : FileTree}

/-- What a step of one call has to keep, for the call itself and for the others. -/
theorem after {call : Call} (h : Sound place start now) (hfresh : call.fresh = (now.calls i).fresh)
    (hdirectories : t.HasDirectoriesOf now.tree)
    (hentries : ∀ key, IsKey key → start.IsWhole place key (t.get? (place ++ [entryName key])))
    (hstore : ∀ caller chunk answer phase, call = .store caller chunk answer phase →
      phase.IsIn place ∧ phase.Holds (bytesOf answer) t)
    (hothers : ∀ j, j ≠ i → ∀ caller chunk answer phase,
      now.calls j = .store caller chunk answer phase → phase.Holds (bytesOf answer) t)
    (hapart : ∀ j, j ≠ i → ∀ temporary, (now.calls j).temporary? = some temporary →
      call.temporary? ≠ some temporary)
    (hlookup : ∀ caller chunk reading, call = .lookup caller chunk reading →
      start.ReadsWhole place chunk reading) : Sound place start (now.after i t call) := by
  refine ⟨fun q hq => hdirectories q (h.directories q hq), ?_, hentries, ?_, ?_, ?_⟩
  · intro j
    by_cases hj : j = i
    · subst hj
      rw [calls_after_self, hfresh, h.calls j]
    · rw [now.calls_after_of_ne hj, h.calls j]
  · intro j caller chunk answer phase hcall
    by_cases hj : j = i
    · subst hj
      rw [calls_after_self] at hcall
      exact hstore caller chunk answer phase hcall
    · rw [now.calls_after_of_ne hj] at hcall
      exact ⟨(h.stores j caller chunk answer phase hcall).1,
        hothers j hj caller chunk answer phase hcall⟩
  · intro j k temporary hj hk
    by_cases hji : j = i <;> by_cases hki : k = i
    · rw [hji, hki]
    · subst hji
      rw [calls_after_self] at hj
      rw [now.calls_after_of_ne hki] at hk
      exact absurd hj (hapart k hki temporary hk)
    · subst hki
      rw [now.calls_after_of_ne hji] at hj
      rw [calls_after_self] at hk
      exact absurd hk (hapart j hji temporary hj)
    · rw [now.calls_after_of_ne hji] at hj
      rw [now.calls_after_of_ne hki] at hk
      exact h.apart j k temporary hj hk
  · intro j caller chunk reading hcall
    by_cases hj : j = i
    · subst hj
      rw [calls_after_self] at hcall
      exact hlookup caller chunk reading hcall
    · rw [now.calls_after_of_ne hj] at hcall
      exact h.lookups j caller chunk reading hcall

theorem moved (h : Sound place start now)
    (hcall : now.calls i = .store caller chunk answer phase) (hkey : chunk.contentKey = some key)
    (hmoved : Storing.Moved place (job caller.directory key answer) now.tree phase t phase') :
    start.Sound place (now.after i t (.store caller chunk answer phase')) := by
  obtain ⟨hin, hholds⟩ := h.stores i caller chunk answer phase hcall
  apply h.after
  · rw [hcall]
    rfl
  · exact hmoved.hasDirectoriesOf hholds
  · exact h.entries_moved hcall hkey hmoved
  · intro _ _ _ _ hstore
    obtain ⟨rfl, rfl, rfl, rfl⟩ := Call.store.inj hstore
    exact ⟨hmoved.isIn hin, hmoved.holds hholds⟩
  · intro j hj _ _ _ _ hother
    exact h.holds_moved hcall (isKey_of_contentKey hkey) hmoved hj hother
  · intro j hj temporary htemporary
    exact h.apart_moved hcall hmoved hj htemporary
  · intro _ _ _ hlookup
    exact absurd hlookup (by simp)

/-- A call that changes no file and has no temporary file after its step leaves all as it was. -/
theorem unmoved {call : Call} (h : Sound place start now)
    (hfresh : call.fresh = (now.calls i).fresh) (htemporary : call.temporary? = none)
    (hstore : ∀ caller chunk answer phase, call = .store caller chunk answer phase →
      phase.IsIn place ∧ phase.Holds (bytesOf answer) now.tree)
    (hlookup : ∀ caller chunk reading, call = .lookup caller chunk reading →
      start.ReadsWhole place chunk reading) : start.Sound place (now.after i now.tree call) := by
  apply h.after hfresh (fun _ hq => hq) h.entries hstore
  · intro j _ caller' chunk' answer' other hother
    exact (h.stores j caller' chunk' answer' other hother).2
  · simp [htemporary]
  · exact hlookup

/-- A lookup changes no file, so its step only has to read what is whole. -/
theorem read (h : Sound place start now) {reading reading' : Reading}
    (hcall : now.calls i = .lookup caller chunk reading)
    (hreads : start.ReadsWhole place chunk reading') :
    start.Sound place (now.after i now.tree (.lookup caller chunk reading')) := by
  refine h.unmoved (by rw [hcall]; rfl) rfl (fun _ _ _ _ hstore => absurd hstore (by simp)) ?_
  intro _ _ _ hlookup
  obtain ⟨rfl, rfl, rfl⟩ := Call.lookup.inj hlookup
  exact hreads

/-- A store without a key is over, and has no temporary file. -/
theorem storesNot (h : Sound place start now)
    (hcall : now.calls i = .store caller chunk answer phase) :
    start.Sound place (now.after i now.tree (.store caller chunk answer (.done .abandoned))) := by
  refine h.unmoved (by rw [hcall]; rfl) rfl ?_ (fun _ _ _ hlookup => absurd hlookup (by simp))
  intro _ _ _ _ hstore
  obtain ⟨rfl, rfl, rfl, rfl⟩ := Call.store.inj hstore
  exact ⟨nofun, trivial⟩

theorem turn (h : Sound place start now) (hstart : start.Starts place) {t : FileTree} {call : Call}
    (hturn : Turn now.tree (now.calls i) t call) : start.Sound place (now.after i t call) := by
  have hlocate := h.located hstart i
  have hplace := h.directories _ hstart.directory
  generalize hcall : now.calls i = before at hturn hlocate
  cases hturn with
  | stores hkey chance =>
    obtain ⟨hin, -⟩ := h.stores _ _ _ _ _ hcall
    exact h.moved hcall hkey (Storing.moved hlocate hplace hin chance)
  | creates hkey hplace' hname hfree =>
    obtain rfl := Except.ok.inj (hplace'.symm.trans hlocate)
    exact h.moved hcall hkey (.created hname hfree (FileTree.get?_put (by simp) _))
  | storesNot => exact h.storesNot hcall
  | opens hkey => exact h.read hcall (h.opened hstart hcall hkey)
  | opensNot _ e => exact h.read hcall (by simp [ReadsWhole])
  | @reads _ _ key found hkey =>
    have hopened := h.lookups _ _ _ _ hcall
    refine h.read hcall ?_
    cases found with
    | error e => exact .inl (readEntry_unreadable e)
    | ok content =>
      refine .inr (.inr ⟨key, _, hkey, hopened content key rfl hkey, ?_⟩)
      simp only [textOf, outcomeAt]
      cases decodeText? content <;> rfl
  | readsNot _ e => exact h.read hcall (.inl (readEntry_unreadable e))
  | looksUpNot hkey => exact h.read hcall (.inr (.inl ⟨hkey, rfl⟩))

theorem reaches (hstart : start.Starts place) (hrun : Reaches start now) :
    start.Sound place now := by
  induction hrun with
  | refl => exact sound_start hstart
  | tail _ hstep ih =>
    cases hstep with
    | turn i hturn => exact ih.turn hstart hturn

end Sound

/-- No entry is torn: an entry is as it was at the start or has the complete text of one store under
its key, and a lookup that is over has found nothing, or comes to what it would have come to at the
start, or to what is read from the complete text of one store under its key. -/
structure Untorn (place : List String) (start now : Sharing ι) : Prop where
  entries : ∀ (chunk : ModuleSpec) (key : String), chunk.contentKey = some key →
    now.tree.get? (place ++ [entryName key]) = start.tree.get? (place ++ [entryName key]) ∨
      ∃ answer text, start.Stores key answer ∧ answer.prettyText = some text ∧
        now.tree.get? (place ++ [entryName key]) = some (.file (encodeText text))
  lookups : ∀ i caller chunk outcome, now.calls i = .lookup caller chunk (.done outcome) →
    outcome = .ok none ∨ outcome = (caller.cache.lookup chunk (caller.sees start.tree)).1 ∨
      ∃ key answer text, chunk.contentKey = some key ∧ start.Stores key answer ∧
        answer.prettyText = some text ∧ outcome = (readEntry (entryName key) (.ok text)).1

/-- Whatever calls use a directory, and in whatever order their steps come and fail. -/
theorem untorn (hstart : start.Starts place) (hrun : Reaches start now) :
    start.Untorn place now := by
  have hsound := Sound.reaches hstart hrun
  refine ⟨fun _ key hkey => hsound.entries key (isKey_of_contentKey hkey),
    fun i caller chunk outcome hcall => ?_⟩
  have hleads := hstart.leads i
  rw [← hsound.calls i, hcall] at hleads
  rcases hsound.lookups i caller chunk _ hcall with
    hnone | ⟨hkey, houtcome⟩ | ⟨key, entry, hkey, hwhole, houtcome⟩
  · exact .inl hnone
  · refine .inr (.inl ?_)
    rw [houtcome, lookup_of_lacksKey ⟨caller.isUsed_cache, hkey⟩]
  · right
    rcases hwhole with hentry | ⟨answer, text, hstored, htext, hentry⟩
    · left
      have hlookup : (caller.cache.lookup chunk (caller.sees start.tree)).1 =
          outcomeAt (entryName key) (start.tree.get? (place ++ [entryName key])) :=
        lookup_fst_of_located rfl rfl hleads hstart.directory hkey
      rw [houtcome, hentry, hlookup]
    · right
      refine ⟨key, answer, text, hkey, hstored, htext, ?_⟩
      rw [houtcome, hentry, outcomeAt_encodeText _ htext]

/-! ### A store and a lookup -/

end Sharing

end ServiceMigration.Cache
