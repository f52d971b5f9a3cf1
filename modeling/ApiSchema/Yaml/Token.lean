import ApiSchema.Fault
import ApiSchema.Text.Table
import ApiSchema.Yaml.Cursor

namespace ApiSchema.Yaml

inductive LoadFault where
  | malformed
  | misuse (misuse : Misuse)
deriving DecidableEq

abbrev Step := Except LoadFault

inductive Directive where
  | version (major : Nat)
  | tagHandle (handle start : String)
  | unknown

inductive Token where
  | streamEnd
  | directive (d : Directive)
  | documentStart
  | documentEnd
  | blockSequenceStart
  | blockMappingStart
  | blockEnd
  | flowSequenceStart
  | flowSequenceEnd
  | flowMappingStart
  | flowMappingEnd
  | blockEntry
  | flowEntry
  | key
  | value
  | alias (name : String)
  | anchor (name : String)
  | tag (handle : Option String) (rest : String)
  | scalar (text : String) (isPlain : Bool)
  | broken (fault : LoadFault)

def isWordChar (c : Char) : Bool := c.isAlpha || c.isDigit || c == '-' || c == '_'

def readName (c : Cursor) : Step (String × Cursor) :=
  let (name, c) := c.step.span isWordChar
  let follows := "?:,]\x7d%@\x60".toList
  if name.isEmpty then .error .malformed
  else if isGap c.peek || follows.contains c.peek then .ok (String.ofList name, c)
  else .error .malformed

def isTagChar (c : Char) : Bool :=
  c.isAlpha || c.isDigit || "-;/?:@&=+$,_.!~*'()[]%".toList.contains c

def readEscapes : Nat → List UInt8 → Cursor → Step (List UInt8 × Cursor)
  | 0, done, c => .ok (done, c)
  | fuel + 1, done, c =>
    if c.peek == '%' then
      let digits := (c.rest.drop 1).take 2
      if digits.length = 2 && digits.all Text.isHexDigit then
        readEscapes fuel (done ++ [UInt8.ofNat (Text.hexNumber digits)]) (c.advance 3)
      else .error .malformed
    else .ok (done, c)

def readTagText : Nat → List Char → Cursor → Step ((List Char) × Cursor)
  | 0, done, c => .ok (done, c)
  | fuel + 1, done, c => do
    let (run, c) := c.span fun ch => isTagChar ch && ch != '%'
    if c.peek == '%' then
      let (bytes, c) ← readEscapes (c.rest.length + 1) [] c
      match String.fromUTF8? ⟨bytes.toArray⟩ with
      | some text => readTagText fuel (done ++ run ++ text.toList) c
      | none => .error .malformed
    else .ok (done ++ run, c)

def readTagRest (c : Cursor) : Step (String × Cursor) := do
  let (text, after) ← readTagText (c.rest.length + 1) [] c
  if after.index = c.index then .error .malformed else .ok (String.ofList text, after)

def readHandle (c : Cursor) : Step (String × Cursor) :=
  if c.peek != '!' then .error .malformed
  else
    let (word, after) := c.step.span isWordChar
    if after.peek == '!' then .ok (String.ofList ('!' :: word ++ ['!']), after.step)
    else if c.peekAt 1 == ' ' then .ok ("!", c.step)
    else .error .malformed

def readTag (c : Cursor) : Step (Token × Cursor) := do
  let next := c.peekAt 1
  let endsTag (ch : Char) : Bool := ch == ' ' || isBreakOrEnd ch
  let (token, c) ←
    if next == '<' then do
      let (rest, c) ← readTagRest (c.advance 2)
      if c.peek != '>' then .error .malformed else pure (Token.tag none rest, c.step)
    else if isGap next then pure (Token.tag none "!", c.step)
    else do
      let named := ((c.rest.drop 1).takeWhile (!endsTag ·)).contains '!'
      let (handle, c) ← if named then readHandle c else pure ("!", c.step)
      let (rest, c) ← readTagRest c
      pure (Token.tag (some handle) rest, c)
  if endsTag c.peek then .ok (token, c) else .error .malformed

def endsField (c : Char) : Bool := c == ' ' || isBreakOrEnd c

def readNumber (c : Cursor) : Step (Nat × Cursor) :=
  let (digits, c) := c.span Char.isDigit
  if digits.isEmpty then .error .malformed
  else .ok (digits.foldl (fun n d => 10 * n + (d.toNat - 48)) 0, c)

def readVersion (c : Cursor) : Step (Directive × Cursor) := do
  let (major, c) ← readNumber c.skipSpaces
  if c.peek != '.' then .error .malformed
  let (_, c) ← readNumber c.step
  if endsField c.peek then .ok (.version major, c) else .error .malformed

def readTagHandle (c : Cursor) : Step (Directive × Cursor) := do
  let (handle, c) ← readHandle c.skipSpaces
  if c.peek != ' ' then .error .malformed
  let (start, c) ← readTagRest c.skipSpaces
  if endsField c.peek then .ok (.tagHandle handle start, c) else .error .malformed

def finishLine (c : Cursor) : Step Cursor :=
  let c := c.skipComment
  if isBreakOrEnd c.peek then .ok c.lineBreak.2 else .error .malformed

def readDirective (c : Cursor) : Step (Token × Cursor) := do
  let (name, c) := c.step.span isWordChar
  if name.isEmpty || !endsField c.peek then .error .malformed
  let (directive, c) ←
    if name == "YAML".toList then readVersion c
    else if name == "TAG".toList then readTagHandle c
    else pure (.unknown, c.skip (!isBreakOrEnd ·))
  return (.directive directive, ← finishLine c)

end ApiSchema.Yaml
