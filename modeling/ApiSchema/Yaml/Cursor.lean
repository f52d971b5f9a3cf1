namespace ApiSchema.Yaml

structure Cursor where
  rest : List Char
  index : Nat := 0
  line : Nat := 0
  column : Nat := 0

def endMark : Char := '\x00'

def lineSeparator : Char := '\u2028'

def paragraphSeparator : Char := '\u2029'

def nextLine : Char := '\u0085'

def byteOrderMark : Char := '\ufeff'

def isBreak (c : Char) : Bool :=
  c == '\n' || c == '\r' || c == nextLine || c == lineSeparator || c == paragraphSeparator

def isEnd (c : Char) : Bool := c == endMark

def isBreakOrEnd (c : Char) : Bool := isBreak c || isEnd c

def isBlank (c : Char) : Bool := c == ' ' || c == '\t'

def isGap (c : Char) : Bool := isBlank c || isBreakOrEnd c

namespace Cursor

def peekAt (c : Cursor) (k : Nat) : Char := c.rest.getD k endMark

def peek (c : Cursor) : Char := c.peekAt 0

def step (c : Cursor) : Cursor :=
  match c.rest with
  | [] => c
  | ch :: rest =>
    if (ch != '\r' && isBreak ch) || (ch == '\r' && rest.head? != some '\n') then
      ⟨rest, c.index + 1, c.line + 1, 0⟩
    else ⟨rest, c.index + 1, c.line, if ch == byteOrderMark then c.column else c.column + 1⟩

def advance (c : Cursor) : Nat → Cursor
  | 0 => c
  | n + 1 => c.step.advance n

def span (c : Cursor) (test : Char → Bool) : List Char × Cursor :=
  let run := c.rest.takeWhile test
  (run, c.advance run.length)

def skip (c : Cursor) (test : Char → Bool) : Cursor := (c.span test).2

def skipSpaces (c : Cursor) : Cursor := c.skip (· == ' ')

def lineBreak (c : Cursor) : Option Char × Cursor :=
  let ch := c.peek
  if ch == '\r' && c.peekAt 1 == '\n' then (some '\n', c.advance 2)
  else if ch == '\n' || ch == '\r' || ch == nextLine then (some '\n', c.step)
  else if isBreak ch then (some ch, c.step)
  else (none, c)

def startsWith (c : Cursor) (word : String) : Bool := word.toList.isPrefixOf c.rest

def atSeparator (c : Cursor) : Bool :=
  (c.startsWith "---" || c.startsWith "...") && isGap (c.peekAt 3)

def skipComment (c : Cursor) : Cursor :=
  let c := c.skipSpaces
  if c.peek == '#' then c.skip (!isBreakOrEnd ·) else c

end Cursor

end ApiSchema.Yaml
