import ServiceMigration.Yaml.Node
/-!
# Documents from YAML

A tree of nodes becomes a document: scalars get their values, the entries of merged mappings come
before the others, and of several entries of one key the last counts.  What is wrong with values is
found level by level: a fault nearer to the root comes before one that is deeper.
-/

namespace ServiceMigration.Yaml

/-- A document in which faults have kept their places. -/
inductive Outline where
  | scalar (value : Except Fault Scalar)
  | list (items : List Outline)
  | dict (entries : List (Except Fault Scalar × Outline))

namespace Outline

/-- A collection that is wrong when its turn comes. -/
def broken (e : Fault) : Outline := .dict [(.error e, .scalar (.ok .null))]

def entries : Outline → List (Except Fault Scalar × Outline)
  | dict es => es
  | _ => []

end Outline

/-- The key of an entry.  A collection is no key, and the mark of a default value is a text. -/
def keyValue (start : Mark) : Node → Except Fault Scalar
  | .scalar .value text _ => .ok (.str text)
  | .scalar tag text m => scalarValue tag text m
  | n => .error (.within "while constructing a mapping" start "found unhashable key" n.start)

/-- A collection whose tag is that of something else. -/
def wrongCollection (tag : Tag) (n : Node) : Fault :=
  match tag with
  | .other _ | .merge | .value => unknownTag tag n.start
  | _ => .at ("expected a scalar node, but found " ++ n.kindName) n.start

def wrongMerge (start : Mark) (wanted : String) (n : Node) : Fault :=
  .within "while constructing a mapping" start
    ("expected " ++ wanted ++ " for merging, but found " ++ n.kindName) n.start

mutual

def outline : Node → Outline
  | .scalar tag text start => .scalar (scalarValue tag text start)
  | .sequence tag items start =>
    match tag with
    | .seq => .list (outlineItems items)
    | .map => .broken (.at "expected a mapping node, but found sequence" start)
    | tag => .scalar (.error (wrongCollection tag (.sequence tag [] start)))
  | .mapping tag entries start =>
    match tag with
    | .map => .dict (mergedEntries start entries ++ ownEntries start entries)
    | .seq => .broken (.at "expected a sequence node, but found mapping" start)
    | tag => .scalar (.error (wrongCollection tag (.mapping tag [] start)))

def outlineItems : List Node → List Outline
  | [] => []
  | n :: rest => outline n :: outlineItems rest

def ownEntries (start : Mark) : List (Node × Node) → List (Except Fault Scalar × Outline)
  | [] => []
  | (k, v) :: rest =>
    if k.tag == .merge then ownEntries start rest
    else (keyValue start k, outline v) :: ownEntries start rest

def mergedEntries (start : Mark) : List (Node × Node) → List (Except Fault Scalar × Outline)
  | [] => []
  | (k, v) :: rest =>
    if k.tag == .merge then
      (match v with
        | .mapping _ es inner => mergedEntries inner es ++ ownEntries inner es
        | .sequence _ items _ => mergedItems start items
        | .scalar .. => [(.error (wrongMerge start "a mapping or list of mappings" v),
          .scalar (.ok .null))]) ++ mergedEntries start rest
    else mergedEntries start rest

/-- The entries of several mappings; those of the first one count most and come last. -/
def mergedItems (start : Mark) : List Node → List (Except Fault Scalar × Outline)
  | [] => []
  | n :: rest =>
    mergedItems start rest ++
      (match n with
        | .mapping _ es inner => mergedEntries inner es ++ ownEntries inner es
        | n => [(.error (wrongMerge start "a mapping" n), .scalar (.ok .null))])

end

namespace Outline

mutual

/-- The faults of an outline, each with the level at which it is found. -/
def faults (level : Nat) : Outline → List (Nat × Fault)
  | .scalar (.error e) => [(level, e)]
  | .scalar (.ok _) => []
  | .list items => itemFaults (level + 1) items
  | .dict entries => entryFaults (level + 1) entries

def itemFaults (level : Nat) : List Outline → List (Nat × Fault)
  | [] => []
  | o :: rest => faults level o ++ itemFaults level rest

def entryFaults (level : Nat) :
    List (Except Fault Scalar × Outline) → List (Nat × Fault)
  | [] => []
  | (k, o) :: rest =>
    (match k with
      | .error e => [(level, e)]
      | .ok _ => []) ++ faults level o ++ entryFaults level rest

end

mutual

/-- The document of an outline, with null in the place of faults. -/
def value : Outline → Value
  | .scalar (.ok s) => .scalar s
  | .scalar (.error _) => .null
  | .list items => .list (itemValues items)
  | .dict entries => .ofEntries (entryValues entries)

def itemValues : List Outline → List Value
  | [] => []
  | o :: rest => value o :: itemValues rest

def entryValues : List (Except Fault Scalar × Outline) → List (Scalar × Value)
  | [] => []
  | (.ok k, o) :: rest => (k, value o) :: entryValues rest
  | (.error _, _) :: rest => entryValues rest

end

/-- The fault of the least level, of several the first. -/
def earliest : List (Nat × Fault) → Option (Nat × Fault)
  | [] => none
  | f :: rest =>
    match earliest rest with
    | some g => if g.1 < f.1 then some g else some f
    | none => some f

/-- The document of an outline without faults. -/
def value? (o : Outline) : Except Fault Value :=
  match earliest (o.faults 0) with
  | some (_, e) => .error e
  | none => .ok o.value

end Outline

def isAcceptable (c : Char) : Bool :=
  let n := c.toNat
  n == 9 || n == 10 || n == 13 || (32 ≤ n && n ≤ 126) || n == 0x85 || (0xA0 ≤ n && n ≤ 0xD7FF) ||
    (0xE000 ≤ n && n ≤ 0xFFFD) || 0x10000 ≤ n

/-- Every character of a text is one that it may hold. -/
def checkCharacters (cs : List Char) : Except Fault Unit :=
  match cs.dropWhile isAcceptable with
  | [] => .ok ()
  | c :: rest => .error (.unacceptable c.toNat (cs.length - rest.length - 1))

/-- Read the only document of a text; without one it is null. -/
def parse (text : String) : Except Fault Value := do
  let cs := text.toList
  checkCharacters cs
  match ← Node.ofTokens? (.ofText cs) with
  | none => pure .null
  | some n => (outline n).value?

end ServiceMigration.Yaml
