import ServiceMigration.Validation.Scalars
/-!
# Constraints of a field

What bean validation says of one field.  Several declared bounds of one side come down to one
effective bound: an exclusive bound before an inclusive one, and both before the whole-number bound.
-/

namespace ServiceMigration

inductive Amount where
  | whole (i : Int)
  | real (d : Double)
  deriving DecidableEq, Repr

namespace Amount

/-- A double as an amount; one without a fraction becomes the whole number that it is. -/
def ofDouble (d : Double) : Amount :=
  match d.toInt? with
  | some i => .whole i
  | none => .real d

def toValue : Amount → Value
  | .whole i => .int i
  | .real d => .float d

end Amount

inductive Relation where
  | gt
  | ge
  | lt
  | le
  deriving DecidableEq, Repr

def Relation.keyword : Relation → String
  | .gt => "gt"
  | .ge => "ge"
  | .lt => "lt"
  | .le => "le"

structure Bound where
  relation : Relation
  amount : Amount
  deriving DecidableEq, Repr

/-- Bean-validation constraints of one field; what is missing constrains nothing. -/
structure Constraints where
  minLength : Option Int := none
  maxLength : Option Int := none
  min : Option Int := none
  max : Option Int := none
  gt : Option Double := none
  ge : Option Double := none
  lt : Option Double := none
  le : Option Double := none
  notBlank : Option Bool := none
  notNull : Option Bool := none
  email : Option Bool := none
  pattern : Option String := none
  deriving DecidableEq, Repr

namespace Constraints

def empty : Constraints := {}

open Validation in
def read : Value → Checked Constraints :=
  readModel "ValidationSpec" fun es =>
    Constraints.mk
      <$> defaulted ["minLength", "min_length"] none (readOptional readInt) es
      <*> defaulted ["maxLength", "max_length"] none (readOptional readInt) es
      <*> defaulted ["min"] none (readOptional readInt) es
      <*> defaulted ["max"] none (readOptional readInt) es
      <*> defaulted ["gt"] none (readOptional readFloat) es
      <*> defaulted ["ge"] none (readOptional readFloat) es
      <*> defaulted ["lt"] none (readOptional readFloat) es
      <*> defaulted ["le"] none (readOptional readFloat) es
      <*> defaulted ["notBlank", "not_blank"] none (readOptional readBool) es
      <*> defaulted ["notNull", "not_null"] none (readOptional readBool) es
      <*> defaulted ["email"] none (readOptional readBool) es
      <*> defaulted ["pattern"] none (readOptional readString) es

def toValue (c : Constraints) : Value :=
  .object [
    ("minLength", .optional .int c.minLength),
    ("maxLength", .optional .int c.maxLength),
    ("min", .optional .int c.min),
    ("max", .optional .int c.max),
    ("gt", .optional .float c.gt),
    ("ge", .optional .float c.ge),
    ("lt", .optional .float c.lt),
    ("le", .optional .float c.le),
    ("notBlank", .optional .bool c.notBlank),
    ("notNull", .optional .bool c.notNull),
    ("email", .optional .bool c.email),
    ("pattern", .optional .str c.pattern)]

def lower (c : Constraints) : Option Bound :=
  match c.gt, c.ge, c.min with
  | some d, _, _ => some ⟨.gt, .ofDouble d⟩
  | none, some d, _ => some ⟨.ge, .ofDouble d⟩
  | none, none, some i => some ⟨.ge, .whole i⟩
  | none, none, none => none

def upper (c : Constraints) : Option Bound :=
  match c.lt, c.le, c.max with
  | some d, _, _ => some ⟨.lt, .ofDouble d⟩
  | none, some d, _ => some ⟨.le, .ofDouble d⟩
  | none, none, some i => some ⟨.le, .whole i⟩
  | none, none, none => none

def boundArgument (b : Bound) : String × Value := (b.relation.keyword, b.amount.toValue)

/-- The constraints as keyword arguments of a field declaration, in their order. -/
def arguments (c : Constraints) : List (String × Value) :=
  (c.minLength.map fun n => ("min_length", Value.int n)).toList ++
    (c.maxLength.map fun n => ("max_length", Value.int n)).toList ++
    (c.lower.map boundArgument).toList ++ (c.upper.map boundArgument).toList ++
    ((c.pattern.filter fun p => !Text.isAllBlank p).map fun p => ("pattern", Value.str p)).toList

/-- A constrained field may not be left out. -/
def forbidsAbsence (c : Constraints) : Bool :=
  c.notNull == some true || c.notBlank == some true

end Constraints

end ServiceMigration
