import ServiceMigration.Validation.Issue
import ServiceMigration.Value.Basic
/-!
# Reading models from documents

A reader of a model looks at every field, whatever it found in the fields before, and collects the
issues in the order of the fields.  `Checked` is the outcome, and its `seq` is that rule.  Besides
the issues there are accidents: a value of a kind that a reader's preparation cannot handle at all.
An accident stops everything and hides the issues.
-/

namespace ServiceMigration

/-- A value was used in a way that its kind does not allow. -/
inductive Accident where
  /-- A text or mapping was needed to be taken apart, and something else was there. -/
  | lacksParts
  | notIterable
  | notText
  deriving DecidableEq, Repr

namespace Validation

/-- The outcome of reading a model: the model, its issues (at least one), or an accident. -/
inductive Checked (α : Type) where
  | ok (a : α)
  | issues (first : Issue) (more : List Issue)
  | accident (a : Accident)
  deriving DecidableEq, Repr

namespace Checked

def fail (kind : IssueKind) : Checked α := .issues ⟨[], kind⟩ []

def map (f : α → β) : Checked α → Checked β
  | .ok a => .ok (f a)
  | .issues i is => .issues i is
  | .accident a => .accident a

/-- Read one more field.  The issues of both sides are kept, in order; an accident wins. -/
def seq (f : Checked (α → β)) (x : Checked α) : Checked β :=
  match f, x with
  | .accident a, _ => .accident a
  | _, .accident a => .accident a
  | .issues i is, .issues j js => .issues i (is ++ j :: js)
  | .issues i is, .ok _ => .issues i is
  | .ok _, .issues j js => .issues j js
  | .ok f, .ok a => .ok (f a)

instance : Functor Checked where
  map := map

instance : Seq Checked where
  seq f x := seq f (x ())

/-- Go on with what was read; the second reader sees nothing unless the first succeeds. -/
def andThen (x : Checked α) (f : α → Checked β) : Checked β :=
  match x with
  | .ok a => f a
  | .issues i is => .issues i is
  | .accident a => .accident a

/-- See the outcome from a value of which the one read is a part. -/
def within (step : Step) : Checked α → Checked α
  | .ok a => .ok a
  | .issues i is => .issues (i.within step) (is.map (·.within step))
  | .accident a => .accident a

@[simp] theorem map_ok (f : α → β) (a : α) : f <$> Checked.ok a = .ok (f a) := rfl

@[simp] theorem seq_ok_ok (f : α → β) (a : α) : Checked.ok f <*> Checked.ok a = .ok (f a) := rfl

@[simp] theorem within_ok (s : Step) (a : α) : within s (Checked.ok a) = .ok a := rfl

@[simp] theorem within_eq_ok {s : Step} {x : Checked α} {a : α} :
    within s x = .ok a ↔ x = .ok a := by
  cases x <;> simp [within]

@[simp] theorem map_eq_ok {f : α → β} {x : Checked α} {b : β} :
    f <$> x = .ok b ↔ ∃ a, x = .ok a ∧ f a = b := by
  cases x <;> simp [Functor.map, map]

/-- A model is read only if every part is. -/
theorem seq_eq_ok {f : Checked (α → β)} {x : Checked α} {b : β} :
    f <*> x = .ok b ↔ ∃ g a, f = .ok g ∧ x = .ok a ∧ g a = b := by
  change seq f x = .ok b ↔ _
  cases f <;> cases x <;> simp [seq]

end Checked

/-- Read the items from the `i`-th on. -/
def readItemsFrom (read : Value → Checked α) (i : Nat) : List Value → Checked (List α)
  | [] => .ok []
  | v :: rest =>
    (List.cons <$> (read v).within (.index i)) <*> readItemsFrom read (i + 1) rest

def readList (read : Value → Checked α) : Value → Checked (List α)
  | .list items => readItemsFrom read 0 items
  | _ => .fail .notList

def readOptional (read : Value → Checked α) : Value → Checked (Option α)
  | .scalar .null => .ok none
  | v => some <$> read v

/-- The value that the first present name supplies, with that name. -/
def firstPresent (names : List String) (entries : List (Scalar × Value)) :
    Option (String × Value) :=
  names.findSome? fun name => (Value.entry? (.str name) entries).map (name, ·)

/-- A field that must be there.  Its names are tried in order; a missing one goes by the first. -/
def required (names : List String) (read : Value → Checked α) (entries : List (Scalar × Value)) :
    Checked α :=
  match firstPresent names entries with
  | some (name, v) => (read v).within (.key name)
  | none => (Checked.fail .missing).within (.key (names.headD ""))

/-- A field with a value for its absence, which is not examined. -/
def defaulted (names : List String) (absent : α) (read : Value → Checked α)
    (entries : List (Scalar × Value)) : Checked α :=
  match firstPresent names entries with
  | some (name, v) => (read v).within (.key name)
  | none => .ok absent

def readModel (model : String) (read : List (Scalar × Value) → Checked α) : Value → Checked α
  | .dict entries => read entries
  | _ => .fail (.notModel model)

end Validation

end ServiceMigration
