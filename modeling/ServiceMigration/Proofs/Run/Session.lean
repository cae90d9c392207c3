import ServiceMigration.Proofs.Cache.Storing
import ServiceMigration.Proofs.Run.Step
import ServiceMigration.Run.Transformer
/-!
# Runs with a cache

The backend of a cache and a generator, for a generator that comes to an outcome on every chunk.
What the outcome is may depend on the whole session, so it may be another one for the same chunk
each time.
-/

namespace ServiceMigration

open Completion

/-- A generator as a function of chunk and session, which it may change. -/
abbrev Run.Responder (κ : Type) := ModuleSpec → Session κ → Generation × Session κ

def Cache.backend (c : Cache) (g : Run.Responder κ) : Run.Backend (Session κ) where
  lookup m s := ((c.lookup m s.workspace).1, { s with workspace := (c.lookup m s.workspace).2 })
  generate m s := (.ok (g m s).1, (g m s).2)
  store m answer s :=
    ((c.store m answer s.workspace).1, { s with workspace := (c.store m answer s.workspace).2 })
  record r s := s.record r

namespace Run

variable {κ : Type}

/-- Putting a chunk to a service changes no file. -/
theorem generate_sameFiles (g : Generator) (p : Provider κ) (m : ModuleSpec) (s : Session κ) :
    (g.generate p m s).2.workspace.SameFiles s.workspace := by
  unfold Generator.generate
  split
  · exact ⟨rfl, rfl⟩
  · split <;> exact ⟨rfl, rfl⟩

variable {c : Cache} {g : Responder κ} {item : WorkItem} {s s' : Session κ}

/-- A run over a cache does not get over a chunk: its entry cannot be read, or it has no key, or the
model gave it an answer that cannot be written, which the cache was to keep. -/
inductive StopsAt (c : Cache) (g : Responder κ) (chunk : ModuleSpec) (s : Session κ) : Prop where
  | unreadable (h : c.Unreadable chunk s.workspace)
  | lacksKey (h : c.LacksKey chunk)
  | unwritten {before : Session κ} {answer : ApiSpec} (hused : c.IsUsed)
      (hanswer : (g chunk before).1 = .success answer) (htext : answer.prettyText = none)
      (hstore : s.workspace = (c.store chunk answer (g chunk before).2.workspace).2)

/-- An attempt only fails on a chunk that a run does not get over. -/
theorem Attempted.stopsAt {e : Failure} (h : Attempted (c.backend g) item s (.error e, s')) :
    StopsAt c g item.chunk s' := by
  cases h with
  | lookupFailed hlookup =>
    obtain ⟨he, rfl⟩ := Prod.mk.inj hlookup
    rcases Cache.lookup_error_iff.mp ⟨e, he⟩ with hlacks | hunreadable
    · exact .lacksKey hlacks
    · refine .unreadable ?_
      rw [Cache.lookup_workspace_of_error he]
      exact hunreadable
  | generateFailed _ hgenerate => simp [Cache.backend] at hgenerate
  | @storeFailed answer _ before _ _ _ hgenerate hstore =>
    obtain ⟨hanswer, rfl⟩ := Prod.mk.inj hgenerate
    obtain ⟨he, rfl⟩ := Prod.mk.inj hstore
    rcases Cache.lacksKey_or_of_storeUnder_error he with hlacks | ⟨hused, htext⟩
    · exact .lacksKey hlacks
    · exact .unwritten hused (Except.ok.inj hanswer) htext rfl

/-- An attempt on an item that cannot be looked up does not succeed. -/
theorem Attempted.not_ok_of_lookup {h : Handling}
    (hu : c.LacksKey item.chunk ∨ c.Unreadable item.chunk s.workspace) :
    ¬ Attempted (c.backend g) item s (.ok h, s') := by
  obtain ⟨e, he⟩ := Cache.lookup_error_iff.mpr hu
  intro ha
  cases ha with
  | cached hlookup | answered hlookup | split hlookup | mapped hlookup =>
    have hok := congrArg Prod.fst hlookup
    simp [Cache.backend, he] at hok

end Run

end ServiceMigration
