/-!
# Issues of a document

What can be wrong with one part of a document when a model is read from it, and where that part is:
the keys and indexes that lead to it from the value that was read.
-/

namespace ServiceMigration.Validation

/-- One step from a value to a part of it. -/
inductive Step where
  | key (name : String)
  | index (i : Nat)
  deriving DecidableEq, Repr

/-- What is wrong with a part. -/
inductive IssueKind where
  | missing
  | notString
  | notInt
  | intSyntax
  | intFraction
  | intSize
  | intFinite
  | notFloat
  | floatSyntax
  | notBool
  | boolSyntax
  | notList
  | notDict
  | notModel (model : String)
  | belowLeast (least : Int)
  | notAbove (bound : Int)
  | notPath
  deriving DecidableEq, Repr

namespace IssueKind

def code : IssueKind → String
  | .missing => "missing"
  | .notString => "string_type"
  | .notInt => "int_type"
  | .intSyntax => "int_parsing"
  | .intFraction => "int_from_float"
  | .intSize => "int_parsing_size"
  | .intFinite => "finite_number"
  | .notFloat => "float_type"
  | .floatSyntax => "float_parsing"
  | .notBool => "bool_type"
  | .boolSyntax => "bool_parsing"
  | .notList => "list_type"
  | .notDict => "dict_type"
  | .notModel _ => "model_type"
  | .belowLeast _ => "greater_than_equal"
  | .notAbove _ => "greater_than"
  | .notPath => "path_type"

def text : IssueKind → String
  | .missing => "Field required"
  | .notString => "Input should be a valid string"
  | .notInt => "Input should be a valid integer"
  | .intSyntax => "Input should be a valid integer, unable to parse string as an integer"
  | .intFraction => "Input should be a valid integer, got a number with a fractional part"
  | .intSize => "Unable to parse input string as an integer, exceeded maximum size"
  | .intFinite => "Input should be a finite number"
  | .notFloat => "Input should be a valid number"
  | .floatSyntax => "Input should be a valid number, unable to parse string as a number"
  | .notBool => "Input should be a valid boolean"
  | .boolSyntax => "Input should be a valid boolean, unable to interpret input"
  | .notList => "Input should be a valid list"
  | .notDict => "Input should be a valid dictionary"
  | .notModel model => "Input should be a valid dictionary or instance of " ++ model
  | .belowLeast least => "Input should be greater than or equal to " ++ toString least
  | .notAbove bound => "Input should be greater than " ++ toString bound
  | .notPath => "Input is not a valid path for <class 'pathlib.Path'>"

end IssueKind

structure Issue where
  path : List Step
  kind : IssueKind
  deriving DecidableEq, Repr

/-- The same issue seen from a value of which the part is a part. -/
def Issue.within (step : Step) (i : Issue) : Issue := { i with path := step :: i.path }

/-- All that is wrong with a value that was read as a model. -/
structure Report where
  model : String
  issues : List Issue
  deriving DecidableEq, Repr

/-- The headline of a report: how many issues, and of which model. -/
def Report.text (r : Report) : String :=
  toString r.issues.length ++ (if r.issues.length = 1 then " validation error for "
    else " validation errors for ") ++ r.model

end ServiceMigration.Validation
