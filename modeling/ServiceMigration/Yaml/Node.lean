import ServiceMigration.Yaml.Tag
import ServiceMigration.Yaml.Tokens
/-!
# Nodes

The tree of a document: scalars, sequences and mappings, each with a tag and the place where it
begins.  A name of another node stands for that node.  The readers below take tokens off a row;
every one of them that calls another takes a token within a few calls, so the fuel is a multiple of
the number of tokens.
-/

namespace ServiceMigration.Yaml

inductive Node where
  | scalar (tag : Tag) (text : String) (start : Mark)
  | sequence (tag : Tag) (items : List Node) (start : Mark)
  | mapping (tag : Tag) (entries : List (Node × Node)) (start : Mark)
  deriving Repr

namespace Node

/-- Where a node begins. -/
def start : Node → Mark
  | scalar _ _ m => m
  | sequence _ _ m => m
  | mapping _ _ m => m

def tag : Node → Tag
  | scalar t _ _ => t
  | sequence t _ _ => t
  | mapping t _ _ => t

def kindName : Node → String
  | scalar .. => "scalar"
  | sequence .. => "sequence"
  | mapping .. => "mapping"

/-- A node that is not written. -/
def absent (place : Mark) : Node := .scalar .null "" place

end Node

/-- A node that has got a name, with its tree once that is complete. -/
structure Anchored where
  start : Mark
  node : Option Node

/-- What is left of the tokens, and what is known from those before. -/
structure Feed where
  tokens : List Token
  fault : Option Fault
  handles : List (String × String) := []
  anchors : List (String × Anchored) := []

abbrev Reading := StateT Feed (Except Fault)

namespace Reading

/-- The next token.  Behind the last one there is what was wrong with the text. -/
def peek : Reading Token := do
  let f ← get
  match f.tokens, f.fault with
  | t :: _, _ => pure t
  | [], some e => throw e
  | [], none => pure ⟨.streamEnd, {}, {}⟩

def next : Reading Token := do
  let t ← peek
  modify fun f => { f with tokens := f.tokens.tail }
  pure t

/-- The next token is one of some kinds. -/
def isNext (kinds : List TokenKind) : Reading Bool := do
  let t ← peek
  pure (kinds.contains t.kind)

/-- A complaint about the next token, in a collection that begins at a place. -/
def unexpected (context : String) (start : Mark) (wanted : String) : Reading α := do
  let t ← peek
  throw (.within context start (wanted ++ t.shown) t.start)

end Reading

open Reading

/-- What stands before the content of a node. -/
structure Properties where
  anchor : Option String := none
  tag : Option (Option String × String) := none
  /-- Where the first of them begins. -/
  start : Option Mark := none
  tagStart : Option Mark := none

def readAnchor (p : Properties) : Reading Properties := do
  let t ← peek
  match t.kind with
  | .anchor name => do
    let _ ← next
    pure { p with anchor := some name, start := p.start.or (some t.start) }
  | _ => pure p

def readTag (p : Properties) : Reading Properties := do
  let t ← peek
  match t.kind with
  | .tag handle suffix => do
    let _ ← next
    pure { p with
      tag := some (handle, suffix)
      start := p.start.or (some t.start)
      tagStart := some t.start }
  | _ => pure p

/-- An anchor and a tag, in either order. -/
def readProperties : Reading Properties := do
  let p ← readAnchor {}
  let p ← readTag p
  if p.anchor.isSome then pure p else readAnchor p

/-- The full name of a tag; none where nothing or a lone exclamation mark is written. -/
def tagName (p : Properties) (start : Mark) : Reading (Option String) := do
  match p.tag with
  | none => pure none
  | some (none, suffix) => pure (some suffix)
  | some (some handle, suffix) =>
    match (← get).handles.lookup handle with
    | some beginning => pure (some (beginning ++ suffix))
    | none =>
      throw (.within "while parsing a node" start
        ("found undefined tag handle " ++ Text.quoted handle) (p.tagStart.getD start))

def scalarTag (name : Option String) (text : String) (plain : Bool) : Tag :=
  match name with
  | none => if plain then .ofPlain text else .str
  | some "!" => .ofPlain text
  | some name => .ofName name

def collectionTag (name : Option String) (usual : Tag) : Tag :=
  match name with
  | none | some "!" => usual
  | some name => .ofName name

/-- The node that a name stands for. -/
def named (name : String) (place : Mark) : Reading Node := do
  match (← get).anchors.lookup name with
  | some { node := some n, .. } => pure n
  | some { node := none, start } => throw (.at "found unconstructable recursive node" start)
  | none => throw (.at ("found undefined alias " ++ Text.quoted name) place)

def declare (anchor : Option String) (start : Mark) (node : Option Node) : Reading Unit :=
  match anchor with
  | none => pure ()
  | some name => modify fun f => { f with anchors := (name, ⟨start, node⟩) :: f.anchors }

def checkAnchor (anchor : Option String) (start : Mark) : Reading Unit := do
  match anchor with
  | none => pure ()
  | some name =>
    match (← get).anchors.lookup name with
    | none => pure ()
    | some a =>
      throw (.within ("found duplicate anchor " ++ Text.quoted name ++ "; first occurrence") a.start
        "second occurrence" start)

/-- The kinds of collections by their first token. -/
inductive Shape where
  | flowSequence
  | flowMapping
  | blockSequence
  | blockMapping
  | indentless
  deriving DecidableEq, Repr

/-- The collection that a token begins, where blocks are allowed, and where a dash may begin one. -/
def shapeOf? (inBlock dashes : Bool) : TokenKind → Option Shape
  | .flowSequenceStart => some .flowSequence
  | .flowMappingStart => some .flowMapping
  | .blockSequenceStart => if inBlock then some .blockSequence else none
  | .blockMappingStart => if inBlock then some .blockMapping else none
  | .blockEntry => if dashes then some .indentless else none
  | _ => none

def endBlock (context : String) (start : Mark) : Reading Unit := do
  if ← isNext [.blockEnd] then
    let _ ← next
  else unexpected context start "expected <block end>, but found "

/-- The comma before an entry that is not the first, and before the end. -/
def separateFlow (context : String) (closing : TokenKind) (start : Mark) (first : Bool) :
    Reading Unit := do
  if first then pure ()
  else if ← isNext [closing] then pure ()
  else if ← isNext [.flowEntry] then
    let _ ← next
  else unexpected context start ("expected ',' or " ++ Text.quoted closing.name ++ ", but got ")

/-- Nothing is left where it should not be. -/
def outOfFuel : Reading α := throw (.at "nesting is too deep" {})

mutual

/-- A node.  In a block, collections may begin by indentation; where `dashes` says so, a sequence
may begin without one. -/
def readNode (inBlock dashes : Bool) : Nat → Reading Node
  | 0 => outOfFuel
  | fuel + 1 => do
    let t ← peek
    match t.kind with
    | .reference name => do
      let _ ← next
      named name t.start
    | _ => do
      let p ← readProperties
      let t ← peek
      let start := p.start.getD t.start
      let name ← tagName p start
      match t.kind with
      | .scalar text plain => do
        checkAnchor p.anchor start
        let _ ← next
        let node : Node := .scalar (scalarTag name text plain) text start
        declare p.anchor start (some node)
        pure node
      | kind =>
        match shapeOf? inBlock dashes kind with
        | some shape => do
          checkAnchor p.anchor start
          declare p.anchor start none
          let node ← readCollection shape name start fuel
          declare p.anchor start (some node)
          pure node
        | none =>
          if p.start.isSome then do
            checkAnchor p.anchor start
            let node : Node := .scalar (scalarTag name "" (p.tag.isNone)) "" start
            declare p.anchor start (some node)
            pure node
          else
            unexpected ("while parsing a " ++ (if inBlock then "block" else "flow") ++
              " node") start
              "expected the node content, but found "

def readCollection (shape : Shape) (name : Option String) (start : Mark) : Nat → Reading Node
  | 0 => outOfFuel
  | fuel + 1 =>
    match shape with
    | .indentless => do
      let items ← readDashes fuel
      pure (.sequence (collectionTag name .seq) items start)
    | .blockSequence => do
      let t ← next
      let items ← readBlockItems t.start fuel
      pure (.sequence (collectionTag name .seq) items start)
    | .blockMapping => do
      let t ← next
      let entries ← readBlockEntries t.start fuel
      pure (.mapping (collectionTag name .map) entries start)
    | .flowSequence => do
      let t ← next
      let items ← readFlowItems t.start true fuel
      pure (.sequence (collectionTag name .seq) items start)
    | .flowMapping => do
      let t ← next
      let entries ← readFlowEntries t.start true fuel
      pure (.mapping (collectionTag name .map) entries start)

/-- A node, or an absent one where one of some tokens follows. -/
def readUnless (ends : List TokenKind) (place : Mark) (inBlock dashes : Bool) : Nat → Reading Node
  | 0 => outOfFuel
  | fuel + 1 => do
    if ← isNext ends then pure (.absent place)
    else readNode inBlock dashes fuel

def readDashes : Nat → Reading (List Node)
  | 0 => outOfFuel
  | fuel + 1 => do
    if ← isNext [.blockEntry] then
      let t ← next
      let item ← readUnless [.blockEntry, .key, .value, .blockEnd] t.stop true false fuel
      let items ← readDashes fuel
      pure (item :: items)
    else pure []

/-- Items after dashes, up to the end of their block. -/
def readBlockItems (start : Mark) : Nat → Reading (List Node)
  | 0 => outOfFuel
  | fuel + 1 => do
    if ← isNext [.blockEntry] then
      let t ← next
      let item ← readUnless [.blockEntry, .blockEnd] t.stop true false fuel
      let items ← readBlockItems start fuel
      pure (item :: items)
    else
      endBlock "while parsing a block collection" start
      pure []

def readBlockValue : Nat → Reading Node
  | 0 => outOfFuel
  | fuel + 1 => do
    let t ← peek
    if t.kind == .value then
      let _ ← next
      readUnless [.key, .value, .blockEnd] t.stop true true fuel
    else pure (.absent t.start)

/-- Entries up to the end of their block.  A key may be missing before a colon, and a value after a
key. -/
def readBlockEntries (start : Mark) : Nat → Reading (List (Node × Node))
  | 0 => outOfFuel
  | fuel + 1 => do
    if ← isNext [.key] then
      let t ← next
      let key ← readUnless [.key, .value, .blockEnd] t.stop true true fuel
      let value ← readBlockValue fuel
      let entries ← readBlockEntries start fuel
      pure ((key, value) :: entries)
    else
      endBlock "while parsing a block mapping" start
      pure []

def readFlowValue (closing : TokenKind) : Nat → Reading Node
  | 0 => outOfFuel
  | fuel + 1 => do
    let t ← peek
    if t.kind == .value then
      let _ ← next
      readUnless [.flowEntry, closing] t.stop false false fuel
    else pure (.absent t.start)

/-- Items up to the closing bracket.  A single entry may stand for a mapping of one. -/
def readFlowItems (start : Mark) (first : Bool) : Nat → Reading (List Node)
  | 0 => outOfFuel
  | fuel + 1 => do
    separateFlow "while parsing a flow sequence" .flowSequenceEnd start first
    if ← isNext [.flowSequenceEnd] then
      let _ ← next
      pure []
    else if ← isNext [.key] then
      let t ← next
      let key ← readUnless [.value, .flowEntry, .flowSequenceEnd] t.stop false false fuel
      let value ← readFlowValue .flowSequenceEnd fuel
      let items ← readFlowItems start false fuel
      pure (.mapping .map [(key, value)] t.start :: items)
    else
      let item ← readNode false false fuel
      let items ← readFlowItems start false fuel
      pure (item :: items)

/-- Entries up to the closing brace.  What is no key has no value. -/
def readFlowEntries (start : Mark) (first : Bool) : Nat → Reading (List (Node × Node))
  | 0 => outOfFuel
  | fuel + 1 => do
    separateFlow "while parsing a flow mapping" .flowMappingEnd start first
    if ← isNext [.flowMappingEnd] then
      let _ ← next
      pure []
    else if ← isNext [.key] then
      let t ← next
      let key ← readUnless [.value, .flowEntry, .flowMappingEnd] t.stop false false fuel
      let value ← readFlowValue .flowMappingEnd fuel
      let entries ← readFlowEntries start false fuel
      pure ((key, value) :: entries)
    else
      let key ← readNode false false fuel
      let t ← peek
      let entries ← readFlowEntries start false fuel
      pure ((key, .absent t.start) :: entries)

end

/-! ### Documents -/

def usualHandles : List (String × String) := [("!", "!"), ("!!", Tag.common)]

/-- Directives before a document, and the handles that they declare. -/
def readDirectives : Nat → Bool → List (String × String) → Reading (List (String × String))
  | 0, _, handles => pure handles
  | fuel + 1, hasVersion, handles => do
    let t ← peek
    match t.kind with
    | .directive d => do
      let _ ← next
      match d with
      | .version major _ =>
        if hasVersion then throw (.at "found duplicate YAML directive" t.start)
        else if major != 1 then
          throw (.at "found incompatible YAML document (version 1.* is required)" t.start)
        else readDirectives fuel true handles
      | .tag handle beginning =>
        if (handles.lookup handle).isSome then
          throw (.at ("duplicate tag handle " ++ Text.quoted handle) t.start)
        else readDirectives fuel hasVersion ((handle, beginning) :: handles)
      | .other => readDirectives fuel hasVersion handles
    | _ => pure handles

def skipDocumentEnds : Nat → Reading Unit
  | 0 => pure ()
  | fuel + 1 => do
    if ← isNext [.documentEnd] then
      let _ ← next
      skipDocumentEnds fuel

/-- The beginning of a document with a mark; where it begins, or nothing at the end of the text. -/
def readDocumentStart (fuel : Nat) : Reading (Option Mark) := do
  skipDocumentEnds fuel
  let t ← peek
  if t.kind == .streamEnd then pure none
  else
    let handles ← readDirectives fuel false []
    let u ← peek
    if u.kind == .documentStart then
      let _ ← next
      modify fun f => { f with handles := handles ++ usualHandles }
      pure (some t.start)
    else throw (.at ("expected '<document start>', but found " ++ u.shown) u.start)

def isDirectiveNext : Reading Bool := do
  match (← peek).kind with
  | .directive _ => pure true
  | _ => pure false

def readContent (fuel : Nat) : Reading Node := do
  let t ← peek
  if (← isNext [.documentStart, .documentEnd, .streamEnd]) || (← isDirectiveNext) then
    pure (.absent t.start)
  else readNode true false fuel

/-- The first document, if there is one. -/
def readDocument (fuel : Nat) : Reading (Option Node) := do
  if (← isNext [.documentStart, .streamEnd]) || (← isDirectiveNext) then
    match ← readDocumentStart fuel with
    | none => pure none
    | some _ => some <$> readContent fuel
  else
    modify fun f => { f with handles := usualHandles }
    some <$> readNode true false fuel

/-- The only document, if there is one. -/
def readSingle (fuel : Nat) : Reading (Option Node) := do
  match ← readDocument fuel with
  | none => pure none
  | some node => do
    match ← readDocumentStart fuel with
    | none => pure (some node)
    | some start =>
      throw (.within "expected a single document in the stream" node.start
        "but found another document" start)

/-- The only document of a row of tokens. -/
def Node.ofTokens? (ts : Tokens) : Except Fault (Option Node) :=
  (readSingle (4 * ts.tokens.length + 8)).run' { tokens := ts.tokens, fault := ts.fault }

end ServiceMigration.Yaml
