import ServiceMigration.Yaml.Token
/-!
# From text to tokens

Only the colon shows that what stands before it was a key.  So wherever a key may begin, a slot is
left open in the row of tokens; a colon fills it, and what shows that there is no key closes it.  A
key has to be on one line and not too long.  The tokens behind a slot that is still open when
something is wrong have not been decided, and nobody gets to see them.
-/

namespace ServiceMigration.Yaml

structure Candidate where
  level : Nat
  /-- What stands here has to be a key, by its indentation. -/
  required : Bool
  mark : Mark
  deriving DecidableEq, Repr

/-- A token, or an open slot for the beginning of a key at a level of brackets. -/
inductive Slot where
  | token (t : Token)
  | pending (level : Nat)
  deriving DecidableEq, Repr

structure Lexer where
  cursor : Cursor
  /-- How many brackets are open. -/
  level : Nat := 0
  /-- Latest first. -/
  slots : List Slot := []
  indent : Int := -1
  indents : List Int := []
  allowsKey : Bool := true
  candidates : List Candidate := []
  isDone : Bool := false

namespace Lexer

def column (s : Lexer) : Int := s.cursor.mark.column

def inBlock (s : Lexer) : Bool := s.level = 0

def push (s : Lexer) (t : Token) : Lexer := { s with slots := .token t :: s.slots }

/-- Add a token that is not written, at the cursor. -/
def pushHere (s : Lexer) (kind : TokenKind) : Lexer :=
  s.push ⟨kind, s.cursor.mark, s.cursor.mark⟩

def take (s : Lexer) (kind : TokenKind) (length : Nat := 1) : Lexer :=
  let next := s.cursor.advance length
  { s.push ⟨kind, s.cursor.mark, next.mark⟩ with cursor := next }

/-- Move to the next token, past blanks, comments and line breaks. -/
def skipToToken : Nat → Lexer → Lexer
  | 0, s => s
  | fuel + 1, s =>
    let c := s.cursor.skipSpaces.skipComment
    if c.atBreak then
      skipToToken fuel
        { s with cursor := c.lineBreak.2, allowsKey := s.allowsKey || s.inBlock }
    else { s with cursor := c }

/-- Move past a byte order mark at the very beginning. -/
def skipOrderMark (s : Lexer) : Lexer :=
  if s.cursor.mark.index = 0 && s.cursor.peek == some '\uFEFF' then
    { s with cursor := s.cursor.advance 1 }
  else s

def close (s : Lexer) (level : Nat) : Lexer :=
  { s with
    slots := s.slots.eraseP (· == .pending level)
    candidates := s.candidates.filter (·.level != level) }

/-- Put tokens, latest first, in the place of the open slot of a level. -/
def fillSlot (level : Nat) (ts : List Token) : List Slot → List Slot
  | [] => []
  | slot :: rest =>
    if slot == .pending level then ts.map .token ++ rest else slot :: fillSlot level ts rest

/-- Nothing was found that makes a key of what has to be one. -/
def missingColon (s : Lexer) (k : Candidate) : Fault :=
  .within "while scanning a simple key" k.mark "could not find expected ':'" s.cursor.mark

def giveUp (s : Lexer) (k : Candidate) : Except Fault Lexer :=
  if k.required then .error (s.missingColon k) else .ok (s.close k.level)

def isStale (s : Lexer) (k : Candidate) : Bool :=
  k.mark.line != s.cursor.mark.line || 1024 < s.cursor.mark.index - k.mark.index

def expire (s : Lexer) : Except Fault Lexer := (s.candidates.filter s.isStale).foldlM giveUp s

def dropCandidate (s : Lexer) : Except Fault Lexer :=
  (s.candidates.filter (·.level == s.level)).foldlM giveUp s

def saveCandidate (s : Lexer) : Except Fault Lexer :=
  if s.allowsKey then
    s.dropCandidate.map fun s =>
      { s with
        slots := .pending s.level :: s.slots
        candidates := s.candidates ++
          [⟨s.level, s.inBlock && s.indent == s.column, s.cursor.mark⟩] }
  else .ok s

def unwindFrom (column : Int) : List Int → Lexer → Lexer
  | [], s => s
  | outer :: rest, s =>
    if column < s.indent then
      unwindFrom column rest { s.pushHere .blockEnd with indent := outer, indents := rest }
    else s

/-- End the blocks that are indented deeper than a column; brackets have no indentation. -/
def unwind (s : Lexer) (column : Int) : Lexer :=
  if s.inBlock then unwindFrom column s.indents s else s

/-- Begin a block at a column if that is deeper than the present one. -/
def indentTo (s : Lexer) (column : Int) : Option Lexer :=
  if s.indent < column then some { s with indent := column, indents := s.indent :: s.indents }
  else none

/-- Begin a block at the cursor, unless it is begun. -/
def beginBlock (s : Lexer) (kind : TokenKind) : Lexer :=
  match s.indentTo s.column with
  | some s => s.pushHere kind
  | none => s

def endStream (s : Lexer) : Except Fault Lexer :=
  (s.unwind (-1)).dropCandidate.map fun s =>
    let s := { s with
      allowsKey := false
      candidates := []
      slots := s.slots.filter fun | .pending _ => false | .token _ => true
      isDone := true }
    s.pushHere .streamEnd

def separator (s : Lexer) (kind : TokenKind) : Except Fault Lexer :=
  (s.unwind (-1)).dropCandidate.map fun s => ({ s with allowsKey := false } : Lexer).take kind 3

def directive (s : Lexer) : Except Fault Lexer := do
  let s ← (s.unwind (-1)).dropCandidate
  let (t, c) ← directiveToken s.cursor
  pure { s.push t with cursor := c, allowsKey := false }

def openFlow (s : Lexer) (kind : TokenKind) : Except Fault Lexer :=
  s.saveCandidate.map fun s =>
    ({ s with level := s.level + 1, allowsKey := true } : Lexer).take kind

def closeFlow (s : Lexer) (kind : TokenKind) : Except Fault Lexer :=
  s.dropCandidate.map fun s =>
    ({ s with level := s.level - 1, allowsKey := false } : Lexer).take kind

def flowEntry (s : Lexer) : Except Fault Lexer :=
  { s with allowsKey := true }.dropCandidate.map fun s => Lexer.take s .flowEntry

/-- Something that may only stand where a key may. -/
def needsKeyPlace (s : Lexer) (problem : String) : Except Fault Lexer :=
  if s.inBlock && !s.allowsKey then .error (.at problem s.cursor.mark) else .ok s

def blockEntry (s : Lexer) : Except Fault Lexer := do
  let s ← s.needsKeyPlace "sequence entries are not allowed here"
  let s := if s.inBlock then s.beginBlock .blockSequenceStart else s
  let s ← { s with allowsKey := true }.dropCandidate
  pure (s.take .blockEntry)

def key (s : Lexer) : Except Fault Lexer := do
  let s ← s.needsKeyPlace "mapping keys are not allowed here"
  let s := if s.inBlock then s.beginBlock .blockMappingStart else s
  let s ← { s with allowsKey := s.inBlock }.dropCandidate
  pure (s.take .key)

def valueAfterKey (s : Lexer) (k : Candidate) : Lexer :=
  let keyToken : Token := ⟨.key, k.mark, k.mark⟩
  let startToken : Token := ⟨.blockMappingStart, k.mark, k.mark⟩
  let (s, ts) := match (if s.inBlock then s.indentTo k.mark.column else none) with
    | some s => (s, [keyToken, startToken])
    | none => (s, [keyToken])
  { s with
    slots := fillSlot k.level ts s.slots
    candidates := s.candidates.filter (·.level != k.level)
    allowsKey := false }.take .value

def value (s : Lexer) : Except Fault Lexer :=
  match s.candidates.find? (·.level == s.level) with
  | some k => .ok (s.valueAfterKey k)
  | none => do
    let s ← s.needsKeyPlace "mapping values are not allowed here"
    let s := if s.inBlock then s.beginBlock .blockMappingStart else s
    let s ← { s with allowsKey := s.inBlock }.dropCandidate
    pure (s.take .value)

/-- Something that may be a key and is followed by no other key. -/
def content (s : Lexer) (read : Cursor → Scanned TokenKind) : Except Fault Lexer := do
  let s ← s.saveCandidate
  let (kind, c) ← read s.cursor
  pure { s.push ⟨kind, s.cursor.mark, c.mark⟩ with cursor := c, allowsKey := false }

def quoted (s : Lexer) (quote : Char) : Except Fault Lexer :=
  s.content fun c => (quotedScalar quote c).map fun (text, c) => (.scalar text false, c)

def block (s : Lexer) (isFolded : Bool) : Except Fault Lexer := do
  let s ← { s with allowsKey := true }.dropCandidate
  let (text, stop, c) ← blockScalar isFolded s.indent s.cursor
  pure { s.push ⟨.scalar text false, s.cursor.mark, stop⟩ with cursor := c }

/-- A plain scalar.  After a line break another key may begin. -/
def plain (s : Lexer) : Except Fault Lexer :=
  s.saveCandidate.map fun s =>
    let (scalar, c) := plainScalar (!s.inBlock) (s.indent + 1) s.cursor
    { s.push ⟨.scalar (String.ofList scalar.text) true, s.cursor.mark, scalar.stop⟩ with
      cursor := c
      allowsKey := scalar.crossesLine }

/-- A character that has a meaning of its own at the beginning of a token. -/
def isIndicator (c : Char) : Bool :=
  ['-', '?', ':', ',', '[', ']', '{', '}', '#', '&', '*', '!', '|', '>', '\'', '"', '%', '@',
    '`'].contains c

def startsPlain (s : Lexer) (ch : Char) : Bool :=
  !(endsWord (some ch) || isIndicator ch) ||
    (!endsWord (s.cursor.peek 1) && (ch == '-' || (s.inBlock && (ch == '?' || ch == ':'))))

def tokenFrom (s : Lexer) (ch : Char) : Except Fault Lexer :=
  let atColumnZero := s.cursor.mark.column = 0
  let standsAlone := endsWord (s.cursor.peek 1)
  if ch == '%' && atColumnZero then s.directive
  else if atColumnZero && s.cursor.atTriple '-' then s.separator .documentStart
  else if atColumnZero && s.cursor.atTriple '.' then s.separator .documentEnd
  else if ch == '[' then s.openFlow .flowSequenceStart
  else if ch == '{' then s.openFlow .flowMappingStart
  else if ch == ']' then s.closeFlow .flowSequenceEnd
  else if ch == '}' then s.closeFlow .flowMappingEnd
  else if ch == ',' then s.flowEntry
  else if ch == '-' && standsAlone then s.blockEntry
  else if ch == '?' && (!s.inBlock || standsAlone) then s.key
  else if ch == ':' && (!s.inBlock || standsAlone) then s.value
  else if ch == '*' then
    s.content fun c => (nameAfter "alias" c).map fun (name, c) => (.reference name, c)
  else if ch == '&' then
    s.content fun c => (nameAfter "anchor" c).map fun (name, c) => (.anchor name, c)
  else if ch == '!' then s.content tagToken
  else if ch == '|' && s.inBlock then s.block false
  else if ch == '>' && s.inBlock then s.block true
  else if ch == '\'' || ch == '"' then s.quoted ch
  else if s.startsPlain ch then s.plain
  else
    .error (.malformed {
      context := some ("while scanning for the next token", none)
      problem := "found character " ++ shown (some ch) ++ " that cannot start any token"
      place := s.cursor.mark })

def next (s : Lexer) : Except Fault Lexer := do
  let s := skipToToken (s.cursor.rest.length + 1) s.skipOrderMark
  let s ← s.expire
  let s := s.unwind s.column
  match s.cursor.peek with
  | none => s.endStream
  | some ch => s.tokenFrom ch

/-- Read all tokens, or those up to a fault.  Every token but the last takes a character. -/
def run : Nat → Lexer → Lexer × Option Fault
  | 0, s => (s, none)
  | fuel + 1, s =>
    if s.isDone then (s, none)
    else
      match s.next with
      | .error e => (s, some e)
      | .ok s =>
        match s.expire with
        | .error e => (s, some e)
        | .ok s => run fuel s

/-- The tokens before the first open slot. -/
def decided : List Slot → List Token
  | .token t :: rest => t :: decided rest
  | _ => []

end Lexer

/-- The tokens of a text, and what is wrong with it behind them. -/
structure Tokens where
  tokens : List Token
  fault : Option Fault

def Tokens.ofText (cs : List Char) : Tokens :=
  let (s, fault) := Lexer.run (cs.length + 2) { cursor := ⟨cs, {}⟩ }
  { tokens := Lexer.decided s.slots.reverse, fault }

end ServiceMigration.Yaml
