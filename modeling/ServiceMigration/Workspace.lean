import ServiceMigration.Failure
import ServiceMigration.Log
/-!
# Workspaces

What a run sees of the machine: the working directory, the files, the environment, and the log that
it adds to.
-/

namespace ServiceMigration

structure Workspace where
  cwd : List String := []
  tree : FileTree := {}
  environment : List (String × String) := []
  log : List Record := []

namespace Workspace

def record (w : Workspace) (r : Record) : Workspace := { w with log := w.log ++ [r] }

/-- Add several records to the log. -/
def recordAll (w : Workspace) (rs : List Record) : Workspace := { w with log := w.log ++ rs }

/-- The value of an environment variable that is set and not empty. -/
def environmentValue? (w : Workspace) (name : String) : Option String :=
  (w.environment.lookup name).filter (!·.isEmpty)

end Workspace

end ServiceMigration
