import ServiceMigration.Yaml.Cursor
/-!
# Scalars as they are written

A scalar may be written plain, in quotes of two kinds, or as a block of lines.  Each way has its own
rule for the end of the scalar and for the lines in it; in all but one of them a single line break
counts as a space.
-/

namespace ServiceMigration.Yaml

/-- The outcome of reading a part of a text: what was read, and where the text goes on. -/
abbrev Scanned (α : Type) := Except Fault (α × Cursor)

/-- A line break and the empty lines after it, as they count in a scalar that is folded. -/
def folded (lineBreak empty : List Char) : List Char :=
  if lineBreak != ['\n'] then lineBreak ++ empty
  else if empty.isEmpty then [' ']
  else empty

/-! ### Quotes -/

/-- The character that a backslash and a character stand for. -/
def escaped? : Char → Option Char
  | '0' => some '\x00'
  | 'a' => some '\x07'
  | 'b' => some '\x08'
  | 't' | '\t' => some '\t'
  | 'n' => some '\n'
  | 'v' => some '\x0b'
  | 'f' => some '\x0c'
  | 'r' => some '\r'
  | 'e' => some '\x1b'
  | ' ' => some ' '
  | '"' => some '"'
  | '\\' => some '\\'
  | '/' => some '/'
  | 'N' => some '\x85'
  | '_' => some '\xa0'
  | 'L' => some '\u2028'
  | 'P' => some '\u2029'
  | _ => none

/-- How many digits follow a letter that names a character by number. -/
def codeLength? : Char → Option Nat
  | 'x' => some 2
  | 'u' => some 4
  | 'U' => some 8
  | _ => none

def isHexDigit (c : Char) : Bool :=
  ('0' ≤ c && c ≤ '9') || ('a' ≤ c && c ≤ 'f') || ('A' ≤ c && c ≤ 'F')

def hexNumber (cs : List Char) : Nat :=
  cs.foldl (fun n c =>
    16 * n + (if c.isDigit then c.toNat - '0'.toNat else c.toLower.toNat - 'a'.toNat + 10)) 0

def namedChar (start : Mark) (width : Nat) (c : Cursor) : Scanned Char :=
  let ds := (c.rest.take width).takeWhile isHexDigit
  if ds.length < width then
    .error (.within "while scanning a double-quoted scalar" start
      ("expected escape sequence of " ++ toString width ++ " hexadecimal numbers, but found " ++
        shown (c.peek ds.length)) c.mark)
  else .ok (Char.ofNat (hexNumber ds), c.advance width)

/-- Empty lines in a quoted scalar, with the blanks before the next line. -/
def quotedLines (start : Mark) : Nat → Cursor → Scanned (List Char)
  | 0, c => .ok ([], c)
  | fuel + 1, c =>
    if c.atSeparator then
      .error (.within "while scanning a quoted scalar" start
        "found unexpected document separator" c.mark)
    else
      let c := c.skip isGap
      if c.atBreak then
        let (b, c) := c.lineBreak
        match quotedLines start fuel c with
        | .ok (bs, c) => .ok (b ++ bs, c)
        | .error e => .error e
      else .ok ([], c)

def quotedGap (start : Mark) (fuel : Nat) (c : Cursor) : Scanned (List Char) :=
  let gap := c.span isGap
  let c := c.advance gap.length
  if c.atEnd then
    .error (.within "while scanning a quoted scalar" start "found unexpected end of stream" c.mark)
  else if c.atBreak then
    let (b, c) := c.lineBreak
    match quotedLines start fuel c with
    | .ok (bs, c) => .ok (folded b bs, c)
    | .error e => .error e
  else .ok (gap, c)

/-- What a backslash stands for, with the backslash passed. -/
def escape (start : Mark) (fuel : Nat) (c : Cursor) : Scanned (List Char) :=
  match c.peek with
  | none =>
    .error (.within "while scanning a double-quoted scalar" start
      ("found unknown escape character " ++ shown none) c.mark)
  | some ch =>
    match escaped? ch, codeLength? ch with
    | some x, _ => .ok ([x], c.advance 1)
    | none, some width =>
      match namedChar start width (c.advance 1) with
      | .ok (x, c) => .ok ([x], c)
      | .error e => .error e
    | none, none =>
      if isBreak ch then quotedLines start fuel c.lineBreak.2
      else
        .error (.within "while scanning a double-quoted scalar" start
          ("found unknown escape character " ++ shown (some ch)) c.mark)

/-- The rest of a quoted scalar, up to its quote and past it.  Every piece takes a character. -/
def quotedRest (quote : Char) (start : Mark) : Nat → Cursor → Scanned (List Char)
  | 0, c => .ok ([], c)
  | fuel + 1, c =>
    let goOn (piece : Scanned (List Char)) : Scanned (List Char) :=
      match piece with
      | .error e => .error e
      | .ok (cs, c) =>
        match quotedRest quote start fuel c with
        | .ok (ds, c) => .ok (cs ++ ds, c)
        | .error e => .error e
    match c.peek with
    | none => goOn (quotedGap start fuel c)
    | some ch =>
      if isGap ch || isBreak ch then goOn (quotedGap start fuel c)
      else if ch == quote then
        if quote == '\'' && c.peek 1 == some '\'' then goOn (.ok (['\''], c.advance 2))
        else .ok ([], c.advance 1)
      else if quote == '"' && ch == '\\' then goOn (escape start fuel (c.advance 1))
      else goOn (.ok ([ch], c.advance 1))

def quotedScalar (quote : Char) (c : Cursor) : Scanned String :=
  match quotedRest quote c.mark (c.rest.length + 1) (c.advance 1) with
  | .ok (cs, c) => .ok (String.ofList cs, c)
  | .error e => .error e

/-! ### Plain scalars -/

/-- A colon ends a plain scalar before one of these. -/
def endsAfterColon (inFlow : Bool) (c : Option Char) : Bool :=
  endsWord c || (inFlow && (c.map fun ch => [',', '[', ']', '{', '}'].contains ch).getD false)

/-- The characters of a plain scalar up to the next blank. -/
def plainRun (inFlow : Bool) : List Char → List Char
  | [] => []
  | ch :: rest =>
    if endsWord (some ch) || (ch == ':' && endsAfterColon inFlow rest.head?) ||
        (inFlow && [',', '?', '[', ']', '{', '}'].contains ch) then []
    else ch :: plainRun inFlow rest

/-- What stands between two parts of a plain scalar. -/
structure PlainGap where
  text : List Char
  crossesLine : Bool
  deriving Repr

/-- Spaces and empty lines after a line break; nothing where a mark between documents follows. -/
def plainLines : Nat → Cursor → Option (List Char) × Cursor
  | 0, c => (some [], c)
  | fuel + 1, c =>
    let c := c.skipSpaces
    if c.atBreak then
      let (b, c) := c.lineBreak
      if c.atSeparator then (none, c)
      else
        let (bs, c) := plainLines fuel c
        (bs.map (b ++ ·), c)
    else (some [], c)

/-- The gap after a part of a plain scalar. -/
def plainGap (fuel : Nat) (c : Cursor) : PlainGap × Cursor :=
  let gap := c.span (· == ' ')
  let c := c.advance gap.length
  if c.atBreak then
    let (b, c) := c.lineBreak
    if c.atSeparator then (⟨[], true⟩, c)
    else
      let (bs, c) := plainLines fuel c
      (⟨((bs.map (folded b)).getD []), true⟩, c)
  else (⟨gap, false⟩, c)

/-- A plain scalar that was read: its text, where it ends, and whether a line ended after it. -/
structure PlainScalar where
  text : List Char
  stop : Mark
  crossesLine : Bool
  deriving Repr

/-- Read on in a plain scalar that goes on only in columns from `indent`. -/
def plainRest (inFlow : Bool) (indent : Int) :
    Nat → PlainScalar → List Char → Cursor → PlainScalar × Cursor
  | 0, s, _, c => (s, c)
  | fuel + 1, s, gap, c =>
    let run := if c.peek == some '#' then [] else plainRun inFlow c.rest
    if run.isEmpty then (s, c)
    else
      let c := c.advance run.length
      let stop := c.mark
      let (next, c) := plainGap fuel c
      let s : PlainScalar :=
        { text := s.text ++ gap ++ run, stop, crossesLine := next.crossesLine }
      if next.text.isEmpty || c.peek == some '#' || (!inFlow && (c.mark.column : Int) < indent) then
        (s, c)
      else plainRest inFlow indent fuel s next.text c

def plainScalar (inFlow : Bool) (indent : Int) (c : Cursor) : PlainScalar × Cursor :=
  plainRest inFlow indent (c.rest.length + 1) ⟨[], c.mark, false⟩ [] c

/-! ### Blocks -/

inductive Chomping where
  | strip
  | clip
  | keep
  deriving DecidableEq, Repr

/-- The heading of a block: what becomes of its last line breaks, and its indentation if given. -/
structure BlockHeading where
  chomping : Chomping := .clip
  increment : Option Nat := none
  deriving DecidableEq, Repr

/-- A sign for the last line breaks. -/
def chompingOf? : Option Char → Option Chomping
  | some '+' => some .keep
  | some '-' => some .strip
  | _ => none

def incrementOf? (c : Option Char) : Option Nat :=
  match c with
  | some ch => if '0' ≤ ch && ch ≤ '9' then some (ch.toNat - '0'.toNat) else none
  | none => none

def blockIncrement (start : Mark) (c : Cursor) : Scanned (Option Nat) :=
  match incrementOf? c.peek with
  | none => .ok (none, c)
  | some 0 =>
    .error (.within "while scanning a block scalar" start
      "expected indentation indicator in the range 1-9, but found 0" c.mark)
  | some n => .ok (some n, c.advance 1)

/-- The signs of a heading, in either order. -/
def blockSigns (start : Mark) (c : Cursor) : Scanned BlockHeading :=
  match chompingOf? c.peek with
  | some chomping =>
    match blockIncrement start (c.advance 1) with
    | .ok (increment, c) => .ok ({ chomping, increment }, c)
    | .error e => .error e
  | none =>
    match blockIncrement start c with
    | .error e => .error e
    | .ok (none, c) => .ok ({}, c)
    | .ok (some n, c) =>
      match chompingOf? c.peek with
      | some chomping => .ok ({ chomping, increment := some n }, c.advance 1)
      | none => .ok ({ increment := some n }, c)

/-- The heading of a block, up to the end of its line. -/
def blockHeading (start : Mark) (c : Cursor) : Scanned BlockHeading :=
  match blockSigns start c with
  | .error e => .error e
  | .ok (heading, c) =>
    if !endsField c.peek then
      .error (.within "while scanning a block scalar" start
        ("expected chomping or indentation indicators, but found " ++ shown c.peek) c.mark)
    else
      let c := c.skipSpaces.skipComment
      if !endsLine c.peek then
        .error (.within "while scanning a block scalar" start
          ("expected a comment or a line break, but found " ++ shown c.peek) c.mark)
      else .ok (heading, c.lineBreak.2)

def skipIndent (indent : Nat) (c : Cursor) : Cursor :=
  c.advance (min (c.span (· == ' ')).length (indent - c.mark.column))

/-- Empty lines of a block, and the spaces before its next line. -/
def blockBreaks (indent : Nat) : Nat → Cursor → List Char × Mark × Cursor
  | 0, c => ([], c.mark, c)
  | fuel + 1, c =>
    let stop := c.mark
    let c := skipIndent indent c
    if c.atBreak then
      let (b, c) := c.lineBreak
      let (bs, stop, c) := blockBreaks indent fuel c
      (b ++ bs, stop, c)
    else ([], stop, c)

/-- Empty lines at the beginning of a block, and the greatest column that spaces reach. -/
def blockIndentation : Nat → Nat → Mark → Cursor → List Char × Nat × Mark × Cursor
  | 0, deepest, stop, c => ([], deepest, stop, c)
  | fuel + 1, deepest, stop, c =>
    let c := c.skipSpaces
    let deepest := max deepest c.mark.column
    if c.atBreak then
      let (b, c) := c.lineBreak
      let (bs, deepest, stop, c) := blockIndentation fuel deepest c.mark c
      (b ++ bs, deepest, stop, c)
    else ([], deepest, stop, c)

/-- What stands between two lines of a block: a break that is folded counts as a space. -/
def blockJoin (isFolded : Bool) (line lineBreak breaks : List Char) (next : Option Char) :
    List Char :=
  let startsWithText (c : Option Char) : Bool := !(c.map isGap).getD false
  if isFolded && lineBreak == ['\n'] && startsWithText line.head? && startsWithText next then
    (if breaks.isEmpty then [' '] else []) ++ breaks
  else lineBreak ++ breaks

/-- The lines of a block after the breaks before the first one. -/
def blockLines (isFolded : Bool) (chomping : Chomping) (indent : Nat) :
    Nat → List Char → Mark → Cursor → List Char × Mark × Cursor
  | 0, _, stop, c => ([], stop, c)
  | fuel + 1, line?, _, c =>
    let line := c.span (!isBreak ·)
    let c := c.advance line.length
    let (b, c) := c.lineBreak
    let (breaks, stop, c) := blockBreaks indent fuel c
    if c.mark.column = indent && !c.atEnd then
      let (more, stop, c) := blockLines isFolded chomping indent fuel [] stop c
      (line? ++ line ++ blockJoin isFolded line b breaks c.peek ++ more, stop, c)
    else
      (line? ++ line ++ (match chomping with
        | .strip => []
        | .clip => b
        | .keep => b ++ breaks), stop, c)

/-- A block: its text, where it ends, and where the text goes on.  `parent` is the indentation of
what the block stands in. -/
def blockScalar (isFolded : Bool) (parent : Int) (c : Cursor) :
    Except Fault (String × Mark × Cursor) :=
  match blockHeading c.mark (c.advance 1) with
  | .error e => .error e
  | .ok (heading, c) =>
    let fuel := c.rest.length + 1
    let least : Nat := max 1 (parent + 1).toNat
    let (indent, breaks, stop, c) : Nat × List Char × Mark × Cursor :=
      match heading.increment with
      | some n =>
        let indent := least + n - 1
        (indent, blockBreaks indent fuel c)
      | none =>
        let (breaks, deepest, stop, c) := blockIndentation fuel 0 c.mark c
        (max least deepest, breaks, stop, c)
    if c.mark.column = indent && !c.atEnd then
      let (cs, stop, c) := blockLines isFolded heading.chomping indent fuel breaks stop c
      .ok (String.ofList cs, stop, c)
    else
      .ok (String.ofList (if heading.chomping == .keep then breaks else []), stop, c)

end ServiceMigration.Yaml
