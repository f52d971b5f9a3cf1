import ApiSchema.Yaml.Token

/-!
Scalars as indented blocks of lines: literal ones keep every line break, folded ones turn a single
break between two lines of text into a space. The header may give the depth of the block and say
what becomes of the breaks at its end.
-/

namespace ApiSchema.Yaml

inductive Chomping where
  | strip
  | clip
  | keep
deriving DecidableEq

structure BlockHeader where
  chomping : Chomping
  increment : Option Nat

def chompingOf (c : Char) : Option Chomping :=
  if c == '+' then some .keep else if c == '-' then some .strip else none

def readIncrement (c : Cursor) : Step ((Option Nat) × Cursor) :=
  let ch := c.peek
  if ch.isDigit then
    if ch == '0' then .error .malformed else .ok (some (ch.toNat - 48), c.step)
  else .ok (none, c)

def readHeader (c : Cursor) : Step (BlockHeader × Cursor) := do
  let (header, c) ← match chompingOf c.peek with
    | some chomping => do
      let (increment, c) ← readIncrement c.step
      pure (⟨chomping, increment⟩, c)
    | none => do
      let (increment, c) ← readIncrement c
      match increment, chompingOf c.peek with
      | some _, some chomping => pure (⟨chomping, increment⟩, c.step)
      | _, _ => pure ((⟨.clip, increment⟩ : BlockHeader), c)
  if endsField c.peek then return (header, ← finishLine c) else .error .malformed

def leadingLines : Nat → List Char → Nat → Cursor → List Char × Nat × Cursor
  | 0, done, deepest, c => (done, deepest, c)
  | fuel + 1, done, deepest, c =>
    if c.peek == ' ' then
      let c := c.step
      leadingLines fuel done (max deepest c.column) c
    else
      match c.lineBreak with
      | (some b, c) => leadingLines fuel (done ++ [b]) deepest c
      | (none, c) => (done, deepest, c)

def indentTo (column : Nat) : Nat → Cursor → Cursor
  | 0, c => c
  | fuel + 1, c => if c.column < column && c.peek == ' ' then indentTo column fuel c.step else c

def emptyLines (column : Nat) : Nat → List Char → Cursor → List Char × Cursor
  | 0, done, c => (done, c)
  | fuel + 1, done, c =>
    let c := indentTo column column c
    match c.lineBreak with
    | (some b, c) => emptyLines column fuel (done ++ [b]) c
    | (none, c) => (done, c)

def between (isFolded : Bool) (lineEnd : List Char) (breaks : List Char) (first next : Char) :
    List Char :=
  if isFolded && lineEnd == ['\n'] && !isBlank first && !isBlank next then
    if breaks.isEmpty then [' '] else []
  else lineEnd

/-- The lines of a block: its text, and the end of its last line with the breaks that follow.
The text is a list of pieces, the last one first. -/
def blockLines (isFolded : Bool) (column : Nat) : Nat → List (List Char) → List Char → Cursor →
    List (List Char) × List Char × List Char × Cursor
  | 0, done, breaks, c => (done, [], breaks, c)
  | fuel + 1, done, breaks, c =>
    if c.column = column && !isEnd c.peek then
      let first := c.peek
      let (line, c) := c.span (!isBreakOrEnd ·)
      let (lineEnd, c) := c.lineBreak
      let (nextBreaks, c) := emptyLines column (c.rest.length + 1) [] c
      if c.column = column && !isEnd c.peek then
        let joint := between isFolded lineEnd.toList nextBreaks first c.peek
        blockLines isFolded column fuel (joint :: line :: breaks :: done) nextBreaks c
      else (line :: breaks :: done, lineEnd.toList, nextBreaks, c)
    else (done, [], breaks, c)

def readBlock (isFolded : Bool) (depth : Int) (c : Cursor) : Step (Token × Cursor) := do
  let (header, c) ← readHeader c.step
  let least := max (depth + 1) 1
  let fuel := c.rest.length + 1
  let (column, breaks, c) := match header.increment with
    | some n =>
      let column := (least + n - 1).toNat
      let (breaks, c) := emptyLines column fuel [] c
      (column, breaks, c)
    | none =>
      let (breaks, deepest, c) := leadingLines fuel [] 0 c
      (max least.toNat deepest, breaks, c)
  let (pieces, lineEnd, breaks, c) := blockLines isFolded column fuel [] breaks c
  let tail := match header.chomping with
    | .strip => []
    | .clip => lineEnd
    | .keep => lineEnd ++ breaks
  return (.scalar (String.ofList (pieces.reverse.flatten ++ tail)) false, c)

end ApiSchema.Yaml
