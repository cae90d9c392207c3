import Mathlib.Logic.Relation
import ServiceMigration.Proofs.Cache.Footprint
/-!
# Calls of a cache that go on at the same time

Processes make any number of calls of one cache directory, each by the file steps of its own: a
store by the steps of `Storing`, a lookup by opening the entry and then reading what it opened.  The
steps come in any order, also in the one in which a process makes its calls one after the other, and
every step may fail (`Turn`).  A call that goes on alone does what the cache does in one piece
(`Sharing.reaches_store`, `Sharing.reaches_lookup`), so the steps are those of the cache.
-/

namespace ServiceMigration.Cache

/-! ### Calls and their steps -/

/-- Where a caller stands, and the path by which it knows the directory of the cache. -/
structure Caller where
  cwd : List String
  directory : Path

namespace Caller

/-- The cache as a caller has it. -/
def cache (caller : Caller) : Cache := { directory := some caller.directory, enabled := true }

theorem isUsed_cache (caller : Caller) : caller.cache.IsUsed := ⟨rfl, caller.directory, rfl⟩

/-- The files as a caller sees them. -/
def sees (caller : Caller) (tree : FileTree) : Workspace := { cwd := caller.cwd, tree }

end Caller

/-- How far a lookup has got. -/
inductive Reading where
  | opening
  | opened (found : Except FileError ByteArray)
  | done (outcome : Except Failure (Option ApiSpec))

inductive Call where
  | store (caller : Caller) (chunk : ModuleSpec) (answer : ApiSpec) (phase : Storing.Phase)
  | lookup (caller : Caller) (chunk : ModuleSpec) (reading : Reading)

namespace Call

def caller : Call → Caller
  | .store caller _ _ _ => caller
  | .lookup caller _ _ => caller

/-- The call before its first step. -/
def fresh : Call → Call
  | .store caller chunk answer _ => .store caller chunk answer .creating
  | .lookup caller chunk _ => .lookup caller chunk .opening

/-- The temporary file of a call, where it has one. -/
def temporary? : Call → Option (List String)
  | .store _ _ _ phase => phase.temporary?
  | .lookup _ _ _ => none

end Call

/-- What has been opened, as text. -/
def textOf : Except FileError ByteArray → Except ContentProblem String
  | .error e => .error (.unreadable e)
  | .ok content =>
    match decodeText? content with
    | some text => .ok text
    | none => .error .undecodable

/-- One step of a call, with the files before and after it.  A temporary file may get any name of
its kind that is not in use, and a lookup may fail to open its entry or to read what it opened.  A
call for a chunk without a key is over with its first step. -/
inductive Turn : FileTree → Call → FileTree → Call → Prop where
  | stores {t : FileTree} {caller : Caller} {chunk : ModuleSpec} {key : String} {answer : ApiSpec}
      {phase : Storing.Phase} (hkey : chunk.contentKey = some key) (chance : Storing.Chance) :
      Turn t (.store caller chunk answer phase)
        (Storing.step caller.cwd (job caller.directory key answer) chance t phase).1
        (.store caller chunk answer
          (Storing.step caller.cwd (job caller.directory key answer) chance t phase).2)
  | creates {t : FileTree} {caller : Caller} {chunk : ModuleSpec} {key : String} {answer : ApiSpec}
      {place : List String} {name : String} (hkey : chunk.contentKey = some key)
      (hplace : t.locate caller.cwd caller.directory = .ok place)
      (hname : Storing.IsTemporaryName name) (hfree : t.get? (place ++ [name]) = none) :
      Turn t (.store caller chunk answer .creating) (t.put (place ++ [name]) (.file ⟨#[]⟩))
        (.store caller chunk answer
          ((job caller.directory key answer).afterCreating (place ++ [name])))
  | storesNot {t : FileTree} {caller : Caller} {chunk : ModuleSpec} {answer : ApiSpec}
      (hkey : chunk.contentKey = none) :
      Turn t (.store caller chunk answer .creating) t
        (.store caller chunk answer (.done .abandoned))
  | opens {t : FileTree} {caller : Caller} {chunk : ModuleSpec} {key : String}
      (hkey : chunk.contentKey = some key) :
      Turn t (.lookup caller chunk .opening) t
        (.lookup caller chunk
          (.opened (t.read caller.cwd (caller.directory.child (entryName key)))))
  | opensNot {t : FileTree} {caller : Caller} {chunk : ModuleSpec} {key : String}
      (hkey : chunk.contentKey = some key) (e : FileError) :
      Turn t (.lookup caller chunk .opening) t (.lookup caller chunk (.opened (.error e)))
  | reads {t : FileTree} {caller : Caller} {chunk : ModuleSpec} {key : String}
      {found : Except FileError ByteArray} (hkey : chunk.contentKey = some key) :
      Turn t (.lookup caller chunk (.opened found)) t
        (.lookup caller chunk (.done (readEntry (entryName key) (textOf found)).1))
  | readsNot {t : FileTree} {caller : Caller} {chunk : ModuleSpec} {key : String}
      {found : Except FileError ByteArray} (hkey : chunk.contentKey = some key) (e : FileError) :
      Turn t (.lookup caller chunk (.opened found)) t
        (.lookup caller chunk (.done (readEntry (entryName key) (.error (.unreadable e))).1))
  | looksUpNot {t : FileTree} {caller : Caller} {chunk : ModuleSpec}
      (hkey : chunk.contentKey = none) :
      Turn t (.lookup caller chunk .opening) t
        (.lookup caller chunk (.done (.error (.badValue .tooLongToWrite))))

/-- Files, and the calls that use them, each under an index of its own. -/
structure Sharing (ι : Type) where
  tree : FileTree
  calls : ι → Call

namespace Sharing

variable {ι : Type} [DecidableEq ι] {now : Sharing ι}

/-- The files and the calls after a step of one call. -/
def after (now : Sharing ι) (i : ι) (t : FileTree) (call : Call) : Sharing ι :=
  ⟨t, Function.update now.calls i call⟩

@[simp] theorem tree_after (now : Sharing ι) (i : ι) (t : FileTree) (call : Call) :
    (now.after i t call).tree = t := rfl

@[simp] theorem calls_after_self (now : Sharing ι) (i : ι) (t : FileTree) (call : Call) :
    (now.after i t call).calls i = call := Function.update_self ..

theorem calls_after_of_ne (now : Sharing ι) {i j : ι} (h : j ≠ i) (t : FileTree) (call : Call) :
    (now.after i t call).calls j = now.calls j := Function.update_of_ne h ..

/-- One of the calls takes a step. -/
inductive Step : Sharing ι → Sharing ι → Prop where
  | turn {now : Sharing ι} (i : ι) {t : FileTree} {call : Call}
      (hturn : Turn now.tree (now.calls i) t call) :
      Step now (now.after i t call)

/-- Steps of any calls, in any order. -/
def Reaches : Sharing ι → Sharing ι → Prop := Relation.ReflTransGen Step

/-! ### A call that goes on alone -/

theorem after_after (now : Sharing ι) (i : ι) (t t' : FileTree) (call call' : Call) :
    (now.after i t call).after i t' call' = now.after i t' call' := by
  simp only [after, Function.update_idem]

/-- The steps of a store, with whatever happens to each, one after the other. -/
theorem reaches_steps {i : ι} {caller : Caller} {chunk : ModuleSpec} {key : String}
    {answer : ApiSpec} {chances : List Storing.Chance} {phase phase' : Storing.Phase} {t : FileTree}
    (hkey : chunk.contentKey = some key) (hcall : now.calls i = .store caller chunk answer phase)
    (hsteps : Storing.steps caller.cwd (job caller.directory key answer) chances now.tree phase =
      (t, phase')) :
    now.Reaches (now.after i t (.store caller chunk answer phase')) := by
  induction chances generalizing now phase with
  | nil =>
    obtain ⟨rfl, rfl⟩ := Prod.mk.inj hsteps
    have hsame : now.after i now.tree (.store caller chunk answer phase) = now := by
      simp only [after, ← hcall, Function.update_eq_self]
    rw [hsame]
    exact .refl
  | cons chance rest ih =>
    set r := Storing.step caller.cwd (job caller.directory key answer) chance now.tree phase with hr
    have hturn : Turn now.tree (now.calls i) r.1 (.store caller chunk answer r.2) := by
      rw [hcall]
      exact .stores hkey chance
    set stepped := now.after i r.1 (.store caller chunk answer r.2) with hstepped
    have hrest : stepped.Reaches (stepped.after i t (.store caller chunk answer phase')) :=
      ih (calls_after_self ..) hsteps
    rw [hstepped, after_after] at hrest
    exact .head (.turn i hturn) hrest

/-- A store that goes on alone leaves the files that a store of the cache leaves. -/
theorem reaches_store {i : ι} {caller : Caller} {chunk : ModuleSpec} {answer : ApiSpec}
    (hcall : now.calls i = .store caller chunk answer .creating) :
    ∃ phase,
      now.Reaches (now.after i (caller.cache.store chunk answer (caller.sees now.tree)).2.tree
      (.store caller chunk answer phase)) := by
  cases hkey : chunk.contentKey with
  | none =>
    rw [store, storeUnder_of_lacksKey ⟨caller.isUsed_cache, hkey⟩]
    have hturn : Turn now.tree (now.calls i) now.tree
      (.store caller chunk answer (.done .abandoned)) := by
      rw [hcall]
      exact .storesNot hkey
    exact ⟨_, .single (.turn i hturn)⟩
  | some key =>
    obtain ⟨t, phase, hsteps⟩ : ∃ t phase,
        Storing.steps caller.cwd (job caller.directory key answer) (List.replicate 5 {}) now.tree
          .creating = (t, phase) := ⟨_, _, rfl⟩
    have htree : (caller.cache.store chunk answer (caller.sees now.tree)).2.tree = t := by
      rw [store, storeUnder_of_key rfl rfl hkey, (settle_snd _ _ _).1]
      simp only [Caller.sees, Storing.run, Storing.undisturbed, hsteps]
      cases phase <;> rfl
    rw [htree]
    exact ⟨phase, reaches_steps hkey hcall hsteps⟩

end Sharing

end ServiceMigration.Cache
