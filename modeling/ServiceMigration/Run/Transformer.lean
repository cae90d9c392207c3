import ServiceMigration.Cache.Basic
import ServiceMigration.Run.Progress
/-!
# Transformers

A cache, a generator and a provider together are what a run works with; they share a session, which
is the workspace and the state of the provider.
-/

namespace ServiceMigration.Run

open Completion

/-- A cache and a generator, and how often a chunk may be split if that is limited. -/
structure Transformer where
  cache : Cache
  generator : Generator
  depth : Option Int := none

def Transformer.backend (t : Transformer) (p : Provider κ) : Backend (Session κ) where
  lookup m s :=
    let (outcome, workspace) := t.cache.lookup m s.workspace
    (outcome, { s with workspace })
  generate m s := t.generator.generate p m s
  store m answer s :=
    let (outcome, workspace) := t.cache.store m answer s.workspace
    (outcome, { s with workspace })
  record r s := s.record r

def Transformer.run (t : Transformer) (p : Provider κ) (m : ModuleSpec) (size : Int)
    (signal : Option (Nat → Bool)) (s : Session κ) : Outcome (Session κ) :=
  transform (t.backend p) { size, depth := t.depth, signal } m s

end ServiceMigration.Run
