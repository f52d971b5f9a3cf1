import ApiSchema.Yaml.Block
import ApiSchema.Yaml.Quoted

/-!
YAML text to tokens.

Indentation becomes tokens that open and close block collections. A scalar or collection that may
turn out to be a key is remembered at its level of nesting; when the colon comes, the token for the
key is put in front of it. Such a key ends on its own line, within 1024 characters.
-/

namespace ApiSchema.Yaml

structure PossibleKey where
  position : Nat
  isRequired : Bool
  index : Nat
  line : Nat
  column : Nat

structure Lexer where
  cursor : Cursor
  tokens : Array Token := #[]
  flowLevel : Nat := 0
  /-- The column of the innermost block collection, and those around it. -/
  indent : Int := -1
  indents : List Int := []
  keyAllowed : Bool := true
  /-- By level of nesting, at most one for each. -/
  possibleKeys : List (Nat × PossibleKey) := []
  isDone : Bool := false

abbrev Lexing := ExceptT LoadFault (StateM Lexer)

namespace Lexer

def malformed {α : Type} : Lexing α := throw .malformed

def emit (t : Token) : Lexing Unit := modify fun l => { l with tokens := l.tokens.push t }

def insertAt (position : Nat) (t : Token) : Lexing Unit :=
  modify fun l => { l with tokens := l.tokens.insertIdxIfInBounds position t }

def move (change : Cursor → Cursor) : Lexing Unit :=
  modify fun l => { l with cursor := change l.cursor }

def allowKey (allowed : Bool) : Lexing Unit := modify fun l => { l with keyAllowed := allowed }

def keyReach : Nat := 1024

def dropStaleKeys : Lexing Unit := do
  let l ← get
  let isStale (k : PossibleKey) : Bool :=
    k.line != l.cursor.line || l.cursor.index - k.index > keyReach
  if l.possibleKeys.any fun (_, k) => isStale k && k.isRequired then malformed
  else set { l with possibleKeys := l.possibleKeys.filter fun (_, k) => !isStale k }

def dropKey : Lexing Unit := do
  let l ← get
  match l.possibleKeys.lookup l.flowLevel with
  | some k =>
    if k.isRequired then malformed
    else set { l with possibleKeys := l.possibleKeys.filter (·.1 != l.flowLevel) }
  | none => return ()

def noteKey : Lexing Unit := do
  if (← get).keyAllowed then
    dropKey
    let l ← get
    let at_ := l.cursor
    let key : PossibleKey :=
      { position := l.tokens.size, isRequired := l.flowLevel = 0 && l.indent == at_.column
        index := at_.index, line := at_.line, column := at_.column }
    set { l with possibleKeys := (l.flowLevel, key) :: l.possibleKeys }

def closeBlocks (column : Int) : Lexing Unit := modify fun l =>
  if l.flowLevel ≠ 0 then l else go column l.indents { l with indents := l.indents }
where
  go (column : Int) : List Int → Lexer → Lexer
    | [], l => l
    | outer :: rest, l =>
      if l.indent > column then
        go column rest { l with indent := outer, indents := rest, tokens := l.tokens.push .blockEnd }
      else l

def openBlock (column : Nat) : Lexing Bool := do
  let l ← get
  if l.indent < column then
    set { l with indents := l.indent :: l.indents, indent := (column : Int) }
    return true
  else return false

def skipToToken : Nat → Lexing Unit
  | 0 => return ()
  | fuel + 1 => do
    move Cursor.skipComment
    match (← get).cursor.lineBreak with
    | (some _, c) =>
      modify fun l => { l with cursor := c, keyAllowed := l.keyAllowed || l.flowLevel = 0 }
      skipToToken fuel
    | (none, _) => return ()

def reading (reader : Cursor → Step (Token × Cursor)) : Lexing Unit := do
  match reader (← get).cursor with
  | .ok (token, cursor) =>
    modify fun l => { l with cursor }
    emit token
  | .error fault => throw fault

def finish : Lexing Unit := do
  closeBlocks (-1)
  dropKey
  modify fun l => { l with keyAllowed := false, possibleKeys := [], isDone := true }
  emit .streamEnd

def directive : Lexing Unit := do
  closeBlocks (-1)
  dropKey
  allowKey false
  reading readDirective

def documentMark (token : Token) : Lexing Unit := do
  closeBlocks (-1)
  dropKey
  allowKey false
  move (·.advance 3)
  emit token

def openFlow (token : Token) : Lexing Unit := do
  noteKey
  modify fun l => { l with flowLevel := l.flowLevel + 1, keyAllowed := true }
  move Cursor.step
  emit token

def closeFlow (token : Token) : Lexing Unit := do
  dropKey
  if (← get).flowLevel = 0 then malformed
  modify fun l => { l with flowLevel := l.flowLevel - 1, keyAllowed := false }
  move Cursor.step
  emit token

def flowEntry : Lexing Unit := do
  allowKey true
  dropKey
  move Cursor.step
  emit .flowEntry

def startBlock (start : Token) : Lexing Unit := do
  if (← get).flowLevel = 0 then
    if !(← get).keyAllowed then malformed
    if ← openBlock (← get).cursor.column then emit start

def blockEntry : Lexing Unit := do
  startBlock .blockSequenceStart
  allowKey true
  dropKey
  move Cursor.step
  emit .blockEntry

def explicitKey : Lexing Unit := do
  startBlock .blockMappingStart
  allowKey ((← get).flowLevel = 0)
  dropKey
  move Cursor.step
  emit .key

def value : Lexing Unit := do
  let l ← get
  match l.possibleKeys.lookup l.flowLevel with
  | some k =>
    set { l with possibleKeys := l.possibleKeys.filter (·.1 != l.flowLevel) }
    insertAt k.position .key
    if l.flowLevel = 0 then
      if ← openBlock k.column then insertAt k.position .blockMappingStart
    allowKey false
  | none =>
    startBlock .blockMappingStart
    allowKey (l.flowLevel = 0)
    dropKey
  move Cursor.step
  emit .value

def named (reader : Cursor → Step (Token × Cursor)) : Lexing Unit := do
  noteKey
  allowKey false
  reading reader

def block (isFolded : Bool) : Lexing Unit := do
  allowKey true
  dropKey
  reading (readBlock isFolded (← get).indent)

def endsWord (inFlow : Bool) (c : Char) (next : Char) : Bool :=
  isGap c || (c == ':' && (isGap next || (inFlow && ",[]\x7b\x7d".toList.contains next))) ||
    (inFlow && ",?[]\x7b\x7d".toList.contains c)

def wordLength (inFlow : Bool) : List Char → Nat
  | [] => 0
  | c :: rest => if endsWord inFlow c (rest.head?.getD endMark) then 0 else wordLength inFlow rest + 1

def plainBreaks : Nat → List Char → Cursor → Option (List Char) × Cursor
  | 0, done, c => (some done, c)
  | fuel + 1, done, c =>
    if c.peek == ' ' then plainBreaks fuel done c.step
    else
      match c.lineBreak with
      | (some b, c) => if c.atSeparator then (none, c) else plainBreaks fuel (done ++ [b]) c
      | (none, c) => (some done, c)

def plainGap (c : Cursor) : List Char × Bool × Cursor :=
  let (spaces, c) := c.span (· == ' ')
  match c.lineBreak with
  | (none, c) => (spaces, false, c)
  | (some b, c) =>
    if c.atSeparator then ([], true, c)
    else
      match plainBreaks (c.rest.length + 1) [] c with
      | (none, c) => ([], true, c)
      | (some breaks, c) =>
        let first := if b != '\n' then [b] else if breaks.isEmpty then [' '] else []
        (first ++ breaks, true, c)

def plainParts : Nat → List (List Char) → List Char → Lexing (List (List Char))
  | 0, done, _ => return done
  | fuel + 1, done, gap => do
    let l ← get
    let c := l.cursor
    let length := wordLength (l.flowLevel ≠ 0) c.rest
    if c.peek == '#' || length = 0 then return done
    let word := c.rest.take length
    let (nextGap, lineEnded, c) := plainGap (c.advance length)
    set { l with cursor := c, keyAllowed := lineEnded }
    let done := word :: gap :: done
    if nextGap.isEmpty || c.peek == '#' || (l.flowLevel = 0 && (c.column : Int) < l.indent + 1) then
      return done
    else plainParts fuel done nextGap

def plain : Lexing Unit := do
  noteKey
  allowKey false
  let pieces ← plainParts ((← get).cursor.rest.length + 1) [] []
  emit (.scalar (String.ofList pieces.reverse.flatten) true)

def startsPlain (l : Lexer) : Bool :=
  let ch := l.cursor.peek
  let reserved := "-?:,[]\x7b\x7d#&*!|>'\"%@".toList ++ [Char.ofNat 96]
  !(isGap ch || reserved.contains ch) ||
    (!isGap (l.cursor.peekAt 1) && (ch == '-' || (l.flowLevel = 0 && (ch == '?' || ch == ':'))))

def aliasToken (c : Cursor) : Step (Token × Cursor) :=
  (readName c).map fun (name, c) => (.alias name, c)

def anchorToken (c : Cursor) : Step (Token × Cursor) :=
  (readName c).map fun (name, c) => (.anchor name, c)

def next : Lexing Unit := do
  skipToToken ((← get).cursor.rest.length + 1)
  dropStaleKeys
  closeBlocks (← get).cursor.column
  let l ← get
  let c := l.cursor
  let ch := c.peek
  let gapNext := isGap (c.peekAt 1)
  let inFlow := l.flowLevel ≠ 0
  if isEnd ch then finish
  else if ch == '%' && c.column = 0 then directive
  else if c.column = 0 && c.atSeparator then
    documentMark (if ch == '-' then .documentStart else .documentEnd)
  else if ch == '[' then openFlow .flowSequenceStart
  else if ch == '\x7b' then openFlow .flowMappingStart
  else if ch == ']' then closeFlow .flowSequenceEnd
  else if ch == '\x7d' then closeFlow .flowMappingEnd
  else if ch == ',' then flowEntry
  else if ch == '-' && gapNext then blockEntry
  else if ch == '?' && (inFlow || gapNext) then explicitKey
  else if ch == ':' && (inFlow || gapNext) then value
  else if ch == '*' then named aliasToken
  else if ch == '&' then named anchorToken
  else if ch == '!' then named readTag
  else if ch == '|' && !inFlow then block false
  else if ch == '>' && !inFlow then block true
  else if ch == '\'' then named (readQuoted false)
  else if ch == '"' then named (readQuoted true)
  else if startsPlain l then plain
  else malformed

def run : Nat → Lexer → Array Token
  | 0, l => l.tokens.push (.broken .malformed)
  | fuel + 1, l =>
    match next.run.run l with
    | (.ok (), l) => if l.isDone then l.tokens else run fuel l
    | (.error fault, l) => l.tokens.push (.broken fault)

end Lexer

def isPrintable (c : Char) : Bool :=
  let n := c.toNat
  n == 9 || n == 10 || n == 13 || (0x20 ≤ n && n ≤ 0x7e) || n == 0x85 ||
    (0xa0 ≤ n && n ≤ 0xd7ff) || (0xe000 ≤ n && n ≤ 0xfffd) || 0x10000 ≤ n

def tokens (text : String) : Array Token :=
  let chars := text.toList
  if !chars.all isPrintable then #[.broken .malformed]
  else
    let start : Cursor := { rest := chars }
    let start := if start.peek == byteOrderMark then start.step else start
    Lexer.run (2 * chars.length + 2) { cursor := start }

end ApiSchema.Yaml
