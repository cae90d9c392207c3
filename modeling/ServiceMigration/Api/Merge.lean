import ServiceMigration.Api.Basic
import ServiceMigration.Log
/-!
# Merging fragments

The fragments of the chunks of a module become one API: routes end to end, and of the models of one
name the first.  A later model of the same name that says something else is written down and
dropped.
-/

namespace ServiceMigration

namespace ApiSpec

/-- Put a model at the end unless its name is taken. -/
def insertModel (models : List ApiModel) (m : ApiModel) : List ApiModel :=
  if models.any fun n => n.name == m.name then models else models ++ [m]

/-- What is written down when a model is dropped that differs from the one of its name. -/
def conflictRecord? (models : List ApiModel) (m : ApiModel) : Option Record :=
  match models.find? fun n => n.name == m.name with
  | some n =>
    if n.sameAs m then none
    else some ⟨.debug, "Model " ++ m.name ++ " differs between chunks; keeping the first"⟩
  | none => none

/-- The models of a list, first of each name, after those that are there. -/
def unionModels (models more : List ApiModel) : List ApiModel := more.foldl insertModel models

/-- What is written down while models are put in one by one. -/
def conflicts (models : List ApiModel) : List ApiModel → List Record
  | [] => []
  | m :: rest => (conflictRecord? models m).toList ++ conflicts (insertModel models m) rest

def merge (parts : List ApiSpec) : ApiSpec where
  models := unionModels [] (parts.flatMap models)
  routes := parts.flatMap routes

def mergeRecords (parts : List ApiSpec) : List Record := conflicts [] (parts.flatMap models)

end ApiSpec

end ServiceMigration
