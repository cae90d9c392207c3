/-!
# Log records

What happens on the way to a result is recorded in order.  A console shows the records from a least
level on, each with its level in front.
-/

namespace ServiceMigration

inductive Level where
  | debug
  | info
  | warning
  | error
  deriving DecidableEq, Repr

namespace Level

def name : Level → String
  | .debug => "DEBUG"
  | .info => "INFO"
  | .warning => "WARNING"
  | .error => "ERROR"

/-- The place of a level in their order. -/
def rank : Level → Nat
  | .debug => 0
  | .info => 1
  | .warning => 2
  | .error => 3

end Level

structure Record where
  level : Level
  text : String
  deriving DecidableEq, Repr

namespace Record

/-- The record in one line, level first. -/
def line (r : Record) : String := r.level.name ++ " " ++ r.text

end Record

/-- A console that shows records from a least level on.  Setting one up replaces whatever was
there. -/
structure Console where
  least : Level
  deriving DecidableEq, Repr

namespace Console

/-- The console of a run: it shows debug records only when asked for more. -/
def configure (verbose : Bool) : Console := { least := if verbose then .debug else .info }

def shows (c : Console) (r : Record) : Bool := c.least.rank ≤ r.level.rank

def format (r : Record) : String := "[api-migrator] " ++ r.line ++ "\n"

/-- Everything the console writes for some records. -/
def output (c : Console) (rs : List Record) : String :=
  String.join ((rs.filter c.shows).map format)

end Console

end ServiceMigration
