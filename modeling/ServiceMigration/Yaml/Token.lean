import ServiceMigration.Yaml.Scalar
/-!
# Tokens

What a YAML text is made of: indicators, scalars, names, and the beginnings and ends of blocks,
which are not written but follow from the indentation.
-/

namespace ServiceMigration.Yaml

/-- A line that says something about the documents that follow. -/
inductive Directive where
  | version (major minor : Nat)
  | tag (handle beginning : String)
  | other
  deriving DecidableEq, Repr

inductive TokenKind where
  | directive (d : Directive)
  | documentStart
  | documentEnd
  | streamEnd
  | blockSequenceStart
  | blockMappingStart
  | blockEnd
  | flowSequenceStart
  | flowMappingStart
  | flowSequenceEnd
  | flowMappingEnd
  | blockEntry
  | flowEntry
  | key
  | value
  | reference (name : String)
  | anchor (name : String)
  | tag (handle : Option String) (suffix : String)
  | scalar (text : String) (plain : Bool)
  deriving DecidableEq, Repr

/-- A token, and where it begins and ends. -/
structure Token where
  kind : TokenKind
  start : Mark
  stop : Mark
  deriving DecidableEq, Repr

def TokenKind.name : TokenKind → String
  | .directive _ => "<directive>"
  | .documentStart => "<document start>"
  | .documentEnd => "<document end>"
  | .streamEnd => "<stream end>"
  | .blockSequenceStart => "<block sequence start>"
  | .blockMappingStart => "<block mapping start>"
  | .blockEnd => "<block end>"
  | .flowSequenceStart => "["
  | .flowMappingStart => "\x7b"
  | .flowSequenceEnd => "]"
  | .flowMappingEnd => "\x7d"
  | .blockEntry => "-"
  | .flowEntry => ","
  | .key => "?"
  | .value => ":"
  | .reference _ => "<alias>"
  | .anchor _ => "<anchor>"
  | .tag .. => "<tag>"
  | .scalar .. => "<scalar>"

def Token.shown (t : Token) : String := Text.quoted t.kind.name

/-! ### Names and tags -/

def nameAfter (what : String) (c : Cursor) : Scanned String :=
  let context := "while scanning an " ++ what
  let start := c.mark
  let c := c.advance 1
  let name := c.span isNameChar
  let after := c.advance name.length
  let unexpected (c : Cursor) : Fault :=
    .within context start
      ("expected alphabetic or numeric character, but found " ++ shown c.peek) c.mark
  if name.isEmpty then .error (unexpected c)
  else if endsWord after.peek ||
      (after.peek.map
        fun ch => ['?', ':', ',', ']', '}', '%', '@', '`'].contains ch).getD false then
    .ok (String.ofList name, after)
  else .error (unexpected after)

def isTagChar (c : Char) : Bool :=
  isNameChar c || [';', '/', '?', ':', '@', '&', '=', '+', '$', ',', '.', '!', '~', '*', '\'', '(',
    ')', '[', ']'].contains c

/-- The bytes that percent signs with two digits each name. -/
def percentBytes (what : String) (start : Mark) : Nat → Cursor → Scanned (List UInt8)
  | 0, c => .ok ([], c)
  | fuel + 1, c =>
    if c.peek != some '%' then .ok ([], c)
    else
      let c := c.advance 1
      let ds := (c.rest.take 2).takeWhile isHexDigit
      if ds.length < 2 then
        .error (.within ("while scanning a " ++ what) start
          ("expected URI escape sequence of 2 hexadecimal numbers, but found " ++
            shown (c.peek ds.length)) c.mark)
      else
        match percentBytes what start fuel (c.advance 2) with
        | .ok (bs, c) => .ok ((hexNumber ds).toUInt8 :: bs, c)
        | .error e => .error e

/-- The part of a tag after its handle: characters, and characters named by their bytes. -/
def tagPieces (what : String) (start : Mark) : Nat → Cursor → Scanned (List Char)
  | 0, c => .ok ([], c)
  | fuel + 1, c =>
    let run := c.span isTagChar
    let after := c.advance run.length
    let piece : Scanned (List Char) :=
      if !run.isEmpty then .ok (run, after)
      else
        match percentBytes what start c.rest.length c with
        | .error e => .error e
        | .ok (bs, next) =>
          match String.fromUTF8? ⟨bs.toArray⟩ with
          | some s => .ok (s.toList, next)
          | none => .error (.within ("while scanning a " ++ what) start "invalid bytes" c.mark)
    match piece with
    | .error e => .error e
    | .ok ([], c) => .ok ([], c)
    | .ok (cs, c) =>
      match tagPieces what start fuel c with
      | .ok (ds, c) => .ok (cs ++ ds, c)
      | .error e => .error e

/-- The part of a tag after its handle, which must not be empty. -/
def tagSuffix (what : String) (start : Mark) (c : Cursor) : Scanned String :=
  match tagPieces what start (c.rest.length + 1) c with
  | .error e => .error e
  | .ok ([], c) =>
    .error (.within ("while parsing a " ++ what) start
      ("expected URI, but found " ++ shown c.peek) c.mark)
  | .ok (cs, c) => .ok (String.ofList cs, c)

/-- A handle: one exclamation mark, or two with a name between them. -/
def tagHandle (what : String) (start : Mark) (c : Cursor) : Scanned String :=
  let unexpected (c : Cursor) : Fault :=
    .within ("while scanning a " ++ what) start ("expected '!', but found " ++ shown c.peek) c.mark
  if c.peek != some '!' then .error (unexpected c)
  else if c.peek 1 == some ' ' then .ok ("!", c.advance 1)
  else
    let name := (c.advance 1).span isNameChar
    let after := c.advance (name.length + 1)
    if after.peek == some '!' then
      .ok (String.ofList ('!' :: (name ++ ['!'])), after.advance 1)
    else .error (unexpected after)

/-- A tag: a full name in angle brackets, a lone exclamation mark, or a handle with the rest of the
name. -/
def tagToken (c : Cursor) : Scanned TokenKind :=
  let start := c.mark
  let finish (handle : Option String) (rest : Scanned String) : Scanned TokenKind :=
    match rest with
    | .error e => .error e
    | .ok (suffix, c) =>
      if endsField c.peek then .ok (.tag handle suffix, c)
      else
        .error (.within "while scanning a tag" start
          ("expected ' ', but found " ++ shown c.peek) c.mark)
  if c.peek 1 == some '<' then
    match tagSuffix "tag" start (c.advance 2) with
    | .error e => .error e
    | .ok (suffix, c) =>
      if c.peek == some '>' then finish none (.ok (suffix, c.advance 1))
      else
        .error (.within "while parsing a tag" start
          ("expected '>', but found " ++ shown c.peek) c.mark)
  else if endsWord (c.peek 1) then finish none (.ok ("!", c.advance 1))
  else if ((c.advance 1).span fun ch => !endsField (some ch)).contains '!' then
    match tagHandle "tag" start c with
    | .error e => .error e
    | .ok (handle, c) => finish (some handle) (tagSuffix "tag" start c)
  else finish (some "!") (tagSuffix "tag" start (c.advance 1))

/-! ### Directives -/

def versionNumber (start : Mark) (c : Cursor) : Scanned Nat :=
  let ds := c.span Char.isDigit
  if ds.isEmpty then
    .error (.within "while scanning a directive" start
      ("expected a digit, but found " ++ shown c.peek) c.mark)
  else .ok (Decimal.ofDigits ds, c.advance ds.length)

def versionDirective (start : Mark) (c : Cursor) : Scanned Directive :=
  match versionNumber start c.skipSpaces with
  | .error e => .error e
  | .ok (major, c) =>
    if c.peek != some '.' then
      .error (.within "while scanning a directive" start
        ("expected a digit or '.', but found " ++ shown c.peek) c.mark)
    else
      match versionNumber start (c.advance 1) with
      | .error e => .error e
      | .ok (minor, c) =>
        if endsField c.peek then .ok (.version major minor, c)
        else
          .error (.within "while scanning a directive" start
            ("expected a digit or ' ', but found " ++ shown c.peek) c.mark)

/-- A handle, and the beginning of the names that it stands for. -/
def tagDirective (start : Mark) (c : Cursor) : Scanned Directive :=
  let unexpected (c : Cursor) : Fault :=
    .within "while scanning a directive" start ("expected ' ', but found " ++ shown c.peek) c.mark
  match tagHandle "directive" start c.skipSpaces with
  | .error e => .error e
  | .ok (handle, c) =>
    if c.peek != some ' ' then .error (unexpected c)
    else
      match tagSuffix "directive" start c.skipSpaces with
      | .error e => .error e
      | .ok (beginning, c) =>
        if endsField c.peek then .ok (.tag handle beginning, c) else .error (unexpected c)

def directiveContent (name : String) (start : Mark) (c : Cursor) : Scanned Directive :=
  if name == "YAML" then versionDirective start c
  else if name == "TAG" then tagDirective start c
  else .ok (.other, c)

def directiveToken (c : Cursor) : Except Fault (Token × Cursor) :=
  let start := c.mark
  let unexpected (what : String) (c : Cursor) : Fault :=
    .within "while scanning a directive" start (what ++ ", but found " ++ shown c.peek) c.mark
  let c := c.advance 1
  let name := c.span isNameChar
  let after := c.advance name.length
  if name.isEmpty then .error (unexpected "expected alphabetic or numeric character" c)
  else if !endsField after.peek then
    .error (unexpected "expected alphabetic or numeric character" after)
  else
    match directiveContent (String.ofList name) start after with
    | .error e => .error e
    | .ok (d, c) =>
      let stop := c.mark
      let c := if d == .other then c.skip (!isBreak ·) else c
      let c := c.skipSpaces.skipComment
      if endsLine c.peek then .ok (⟨.directive d, start, stop⟩, c.lineBreak.2)
      else .error (unexpected "expected a comment or a line break" c)

end ServiceMigration.Yaml
