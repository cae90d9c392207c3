import ServiceMigration.Value.Moment
/-!
# Documents

`Value` is what a JSON or YAML text holds before anybody has said what it should be: settings files,
analysis files and answers of a language model are read into it, and every model of this library is
written from it.  A mapping is a list of entries in the order in which their keys first appeared; a
key is a scalar, and a whole number, a whole float and a truth value of the same size are one key.
-/

namespace ServiceMigration

/-- A value without parts. -/
inductive Scalar where
  | null
  | bool (b : Bool)
  | int (i : Int)
  | float (d : Double)
  | str (s : String)
  | moment (m : Moment)
  deriving DecidableEq, Repr

inductive Value where
  | scalar (s : Scalar)
  | list (items : List Value)
  | dict (entries : List (Scalar × Value))
  deriving Repr

namespace Scalar

/-- The number that a scalar is, if it is one; truth values are 1 and 0. -/
def number? : Scalar → Option (Int ⊕ Double)
  | .bool b => some (.inl (if b then 1 else 0))
  | .int i => some (.inl i)
  | .float d => some (match d.toInt? with
    | some i => .inl i
    | none => .inr d)
  | _ => none

/-- Two scalars that are equal as a comparison sees it, and name the same entry of a mapping. -/
def sameAs (a b : Scalar) : Bool :=
  match a.number?, b.number? with
  | some x, some y => x == y
  | none, none => a == b
  | _, _ => false

end Scalar

namespace Value

/-- The missing value. -/
def null : Value := .scalar .null

def bool (b : Bool) : Value := .scalar (.bool b)

def int (i : Int) : Value := .scalar (.int i)

def str (s : String) : Value := .scalar (.str s)

def float (d : Double) : Value := .scalar (.float d)

def object (entries : List (String × Value)) : Value :=
  .dict (entries.map fun (k, v) => (.str k, v))

/-- A value that may be missing. -/
def optional (f : α → Value) : Option α → Value
  | none => null
  | some a => f a

def strings (ss : List String) : Value := .list (ss.map str)

def asString? : Value → Option String
  | .scalar (.str s) => some s
  | _ => none

def entry? (key : Scalar) : List (Scalar × Value) → Option Value
  | [] => none
  | (k, v) :: rest => if k.sameAs key then some v else entry? key rest

/-- The value under a text key of a mapping; nothing for other values. -/
def get? (v : Value) (key : String) : Option Value :=
  match v with
  | .dict entries => entry? (.str key) entries
  | _ => none

/-- Put an entry into a mapping: a new key goes to the end, a known one keeps its place and its
spelling. -/
def insertEntry (key : Scalar) (value : Value) : List (Scalar × Value) → List (Scalar × Value)
  | [] => [(key, value)]
  | (k, v) :: rest =>
    if k.sameAs key then (k, value) :: rest else (k, v) :: insertEntry key value rest

/-- The mapping that results from entries put in one after the other. -/
def ofEntries (entries : List (Scalar × Value)) : Value :=
  .dict (entries.foldl (fun acc (k, v) => insertEntry k v acc) [])

/-- What counts as absent where presence is asked for: null, false, zero, and what is empty. -/
def isFalsy : Value → Bool
  | .scalar .null => true
  | .scalar (.bool b) => !b
  | .scalar (.int i) => i == 0
  | .scalar (.float d) => d.sameNumber (.zero false)
  | .scalar (.str s) => s.isEmpty
  | .scalar (.moment _) => false
  | .list items => items.isEmpty
  | .dict entries => entries.isEmpty

mutual

/-- Equality of documents as a comparison of models sees it: numbers by size, mappings whatever the
order of their entries. -/
def sameAs : Value → Value → Bool
  | .scalar a, .scalar b => a.sameAs b
  | .list as, .list bs => listSameAs as bs
  | .dict as, .dict bs => as.length == bs.length && entriesSameAs as bs
  | _, _ => false

def listSameAs : List Value → List Value → Bool
  | [], [] => true
  | a :: as, b :: bs => sameAs a b && listSameAs as bs
  | _, _ => false

/-- Every entry of the first mapping has an equal one in the second. -/
def entriesSameAs : List (Scalar × Value) → List (Scalar × Value) → Bool
  | [], _ => true
  | (k, v) :: rest, bs =>
    (match entry? k bs with
      | some w => sameAs v w
      | none => false) && entriesSameAs rest bs

end

mutual

/-- Free-form content in the form in which it can be written as JSON: what is not a finite number
becomes null. -/
def finitePart : Value → Value
  | .scalar (.float d) => if d.isFinite then .scalar (.float d) else null
  | .scalar s => .scalar s
  | .list items => .list (finiteItems items)
  | .dict entries => .dict (finiteEntries entries)

/-- `finitePart` of every item. -/
def finiteItems : List Value → List Value
  | [] => []
  | v :: rest => finitePart v :: finiteItems rest

/-- `finitePart` of the value of every entry. -/
def finiteEntries : List (Scalar × Value) → List (Scalar × Value)
  | [] => []
  | (k, v) :: rest => (k, finitePart v) :: finiteEntries rest

end

end Value

end ServiceMigration
