import ApiSchema.Yaml.Token

namespace ApiSchema.Yaml

def escapes : List (Char × Char) :=
  [('0', '\x00'), ('a', '\x07'), ('b', '\x08'), ('t', '\t'), ('\t', '\t'), ('n', '\n'),
    ('v', '\x0b'), ('f', '\x0c'), ('r', '\r'), ('e', '\x1b'), (' ', ' '), ('"', '"'),
    ('\\', '\\'), ('/', '/'), ('N', nextLine), ('_', '\u00a0'), ('L', lineSeparator),
    ('P', paragraphSeparator)]

def escapeLengths : List (Char × Nat) := [('x', 2), ('u', 4), ('U', 8)]

def largestCode : Nat := 0x10ffff

/-- The empty lines at a place, with the blanks in front of what follows them. Texts are built
backwards here, the last character first. -/
def quotedBreaks : Nat → List Char → Cursor → Step ((List Char) × Cursor)
  | 0, done, c => .ok (done, c)
  | fuel + 1, done, c =>
    if c.atSeparator then .error .malformed
    else
      let c := c.skip isBlank
      match c.lineBreak with
      | (some b, c) => quotedBreaks fuel (b :: done) c
      | (none, c) => .ok (done, c)

def quotedSpaces (done : List Char) (c : Cursor) : Step ((List Char) × Cursor) := do
  let (blanks, c) := c.span isBlank
  if isEnd c.peek then .error .malformed
  else
    match c.lineBreak with
    | (none, _) => return (blanks.reverse ++ done, c)
    | (some b, c) =>
      let (breaks, c) ← quotedBreaks (c.rest.length + 1) [] c
      let first := if b != '\n' then [b] else if breaks.isEmpty then [' '] else []
      return (breaks ++ first ++ done, c)

def readEscape (done : List Char) (c : Cursor) : Step ((List Char) × Cursor) :=
  let ch := c.peek
  match escapes.lookup ch, escapeLengths.lookup ch with
  | some plain, _ => .ok (plain :: done, c.step)
  | none, some length =>
    let digits := (c.rest.drop 1).take length
    if digits.length = length && digits.all Text.isHexDigit then
      let code := Text.hexNumber digits
      if code ≤ largestCode then .ok (Text.ofCode code :: done, c.advance (length + 1))
      else .error (.misuse .value)
    else .error .malformed
  | none, none =>
    match c.lineBreak with
    | (some _, c) => quotedBreaks (c.rest.length + 1) done c
    | (none, _) => .error .malformed

def quotedRun (double : Bool) : Nat → List Char → Cursor → Step ((List Char) × Cursor)
  | 0, done, c => .ok (done, c)
  | fuel + 1, done, c =>
    let ch := c.peek
    if isGap ch then .ok (done, c)
    else if double then
      if ch == '\\' then
        match readEscape done c.step with
        | .ok (done, c) => quotedRun double fuel done c
        | .error f => .error f
      else if ch == '"' then .ok (done, c)
      else quotedRun double fuel (ch :: done) c.step
    else if ch == '\'' then
      if c.peekAt 1 == '\'' then quotedRun double fuel (ch :: done) (c.advance 2) else .ok (done, c)
    else quotedRun double fuel (ch :: done) c.step

def quotedParts (double : Bool) : Nat → List Char → Cursor → Step ((List Char) × Cursor)
  | 0, _, _ => .error .malformed
  | fuel + 1, done, c => do
    let (done, c) ← quotedRun double (c.rest.length + 1) done c
    if c.peek == (if double then '"' else '\'') then return (done, c.step)
    else
      let (done, c) ← quotedSpaces done c
      quotedParts double fuel done c

def readQuoted (double : Bool) (c : Cursor) : Step (Token × Cursor) := do
  let (done, c) ← quotedParts double (c.rest.length + 1) [] c.step
  return (.scalar (String.ofList done.reverse) false, c)

end ApiSchema.Yaml
