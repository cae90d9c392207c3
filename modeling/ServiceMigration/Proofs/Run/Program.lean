import ServiceMigration.Proofs.Api.Written
import ServiceMigration.Proofs.Run.Bound
import ServiceMigration.Proofs.Run.Storage
/-!
# Runs with the generator of the program

The theory of runs lets a model give any answer.  The generator of the program reads its answers
from texts, so they can be written (`exists_prettyText_of_generate`), and to ask it changes no file.
So no answer breaks a run off: a run that fails does so at a chunk that cannot be looked up or put
to the service (`Transformer.stops_before_answer`), and a run that returns has put the answers into
the files of their chunks (`Transformer.replayed_of_run`).
-/

namespace ServiceMigration.Run

open Completion

variable {κ : Type} {place : List String} {m : ModuleSpec} {s : Session κ} {size : Int}
  {signal : Option (Nat → Bool)}

theorem leavesFiles_generate (g : Generator) (p : Provider κ) :
    Asking.LeavesFiles (g.generate p : Asking κ) :=
  fun chunk s => generate_sameFiles g p chunk s

/-- The text of an answer may be another one than it was read from, but there is one. -/
theorem exists_prettyText_of_generate {g : Generator} {p : Provider κ} {chunk : ModuleSpec}
    {answer : ApiSpec} (h : (g.generate p chunk s).1 = .ok (.success answer)) :
    ∃ text, answer.prettyText = some text := by
  unfold Generator.generate at h
  split at h
  · exact absurd h nofun
  · split at h
    · next completion _ _ =>
      have hparse : ApiSpec.parse completion = .ok answer := by
        unfold Generator.generationOfText at h
        split at h
        · next hparse =>
          obtain rfl := Generation.success.inj (Except.ok.inj h)
          exact hparse
        all_goals exact absurd h nofun
      exact ApiSpec.exists_prettyText_of_parse hparse
    · exact absurd h nofun

/-- No attempt fails because of the answer: the chunk cannot be looked up, or nothing comes of
putting it to the service. -/
theorem Attempted.failed_before_answer {c : Cache} {g : Generator} {p : Provider κ}
    {item : WorkItem} {s' : Session κ} {e : Failure}
    (h : Attempted (backendOf c (g.generate p)) item s (.error e, s')) :
    c.LacksKey item.chunk ∨ c.Unreadable item.chunk s'.workspace ∨
      ∃ before, g.generate p item.chunk before = (.error e, s') := by
  cases h with
  | lookupFailed hlookup =>
    obtain ⟨he, rfl⟩ := Prod.mk.inj hlookup
    refine (Cache.lookup_error_iff.mp ⟨e, he⟩).imp_right fun hunreadable => .inl ?_
    rw [Cache.lookup_workspace_of_error he]
    exact hunreadable
  | generateFailed _ hgenerate => exact .inr (.inr ⟨_, hgenerate⟩)
  | storeFailed _ hgenerate hstore =>
    obtain ⟨text, htext⟩ := exists_prettyText_of_generate (congrArg Prod.fst hgenerate)
    have hfailed := Cache.lacksKey_or_of_storeUnder_error (congrArg Prod.fst hstore)
    refine .inl (hfailed.resolve_right ?_)
    rintro ⟨-, hnone⟩
    exact absurd (htext.symm.trans hnone) nofun

/-- A run that fails does so before it has an answer for the chunk that is first then: the chunk
cannot be looked up, or it cannot be put to the service or the completion cannot be read. -/
theorem Transformer.stops_before_answer (t : Transformer) (p : Provider κ) (hsize : 1 ≤ size)
    {e : Failure} (h : (t.run p m size signal s).result = .error e) :
    ∃ item rest, (t.run p m size signal s).progress.pending = item :: rest ∧
      (t.cache.LacksKey item.chunk ∨
        t.cache.Unreadable item.chunk (t.run p m size signal s).progress.state.workspace ∨
        ∃ before, t.generator.generate p item.chunk before =
          (.error e, (t.run p m size signal s).progress.state)) := by
  have hplan : 1 ≤ ({ size, depth := t.depth, signal } : Plan).size := hsize
  rcases transform_ended (backendOf t.cache (t.generator.generate p)) hplan m s with
    ⟨api, hok, -⟩ | ⟨e', item, rest, before, herror, hpending, hattempt⟩
  · exact absurd (hok.symm.trans h) nofun
  · obtain rfl := Except.error.inj (herror.symm.trans h)
    exact ⟨item, rest, hpending, hattempt.failed_before_answer⟩

/-- If a run returns, the files are what they were, with the answers of the model put in. -/
theorem Transformer.replayed_of_run (t : Transformer) (p : Provider κ) (hsize : 1 ≤ size)
    (hworks : t.cache.WorksIn place s.workspace) {api : ApiSpec}
    (hok : (t.run p m size signal s).result = .ok api) :
    replay (putAnswer place) ((t.run p m size signal s).progress.handled.filterMap answered?)
        s.workspace.tree.get? =
      some (t.run p m size signal s).progress.state.workspace.tree.get? := by
  have hstores := stores_backendOf t.cache place (leavesFiles_generate t.generator p)
  have hrun : (transform (backendOf t.cache (t.generator.generate p))
      { size, depth := t.depth, signal } m s).result = .ok api := hok
  exact (hstores.replayed_of_ok hsize hworks hrun).view

end ServiceMigration.Run
