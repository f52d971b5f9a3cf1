import ApiSchema.Json.Reader

/-!
JSON text to values, for the schema's own JSON.

The values are those of `ApiSchema.Json.read`; the issues differ. They count bytes, name what ended
too early, and refuse lone surrogates, long integers and nesting beyond two hundred levels. A list
or an object with nothing in it is no level.
-/

namespace ApiSchema.Json.Strict

inductive Cause where
  | endInValue
  | endInList
  | endInObject
  | endInString
  | value
  | word
  | colon
  | listComma
  | objectComma
  | trailingComma
  | trailingCharacters
  | key
  | number
  | longNumber
  | controlCharacter
  | escape
  | loneSurrogate
  | endOfHexEscape
  | depth
deriving DecidableEq

def Cause.message : Cause → String
  | endInValue => "EOF while parsing a value"
  | endInList => "EOF while parsing a list"
  | endInObject => "EOF while parsing an object"
  | endInString => "EOF while parsing a string"
  | value => "expected value"
  | word => "expected ident"
  | colon => "expected `:`"
  | listComma => "expected `,` or `]`"
  | objectComma => "expected `,` or `\x7d`"
  | trailingComma => "trailing comma"
  | trailingCharacters => "trailing characters"
  | key => "key must be a string"
  | number => "invalid number"
  | longNumber => "number out of range"
  | controlCharacter => "control character (\\u0000-\\u001F) found while parsing a string"
  | escape => "invalid escape"
  | loneSurrogate => "lone leading surrogate in hex escape"
  | endOfHexEscape => "unexpected end of hex escape"
  | depth => "recursion limit exceeded"

structure Failure where
  cause : Cause
  rest : List Char

abbrev Step (α : Type) := Except Failure α

def fail {α : Type} (cause : Cause) (rest : List Char) : Step α := .error ⟨cause, rest⟩

def skip (text : List Char) : List Char := text.dropWhile isSpace

def afterWord (expected text : List Char) : Step (List Char) :=
  match expected, text with
  | [], rest => .ok rest
  | _ :: _, [] => fail .endInValue []
  | e :: more, c :: rest => if e == c then afterWord more rest else fail .word (c :: rest)

def unicodeEscape (text : List Char) : Step (Char × List Char) := do
  let high ← four text
  let rest := text.drop 4
  if isLowSurrogate high then fail .loneSurrogate rest
  else if isHighSurrogate high then
    match rest with
    | '\\' :: 'u' :: more =>
      let low ← four more
      if isLowSurrogate low then return (joinSurrogates high low, more.drop 4)
      else fail .loneSurrogate (more.drop 4)
    | [] | ['\\'] => fail .endInString []
    | _ => fail .endOfHexEscape rest
  else return (Text.ofCode high, rest)
where
  four (text : List Char) : Step Nat :=
    match fourHex? (text.take 4) with
    | some n => .ok n
    | none =>
      if (text.take 4).length < 4 then fail .endInString []
      else fail .escape (text.dropWhile fun c => (hexValue? c).isSome)

def string (fuel : Nat) (done : List Char) (text : List Char) : Step (String × List Char) :=
  match fuel, text with
  | _, [] => fail .endInString []
  | 0, rest => fail .endInString rest
  | _ + 1, '"' :: rest => .ok (String.ofList done.reverse, rest)
  | fuel + 1, '\\' :: 'u' :: rest => do
    let (c, after) ← unicodeEscape rest
    string fuel (c :: done) after
  | _ + 1, ['\\'] => fail .endInString []
  | fuel + 1, '\\' :: c :: rest =>
    match simpleEscape? c with
    | some d => string fuel (d :: done) rest
    | none => fail .escape (c :: rest)
  | fuel + 1, c :: rest =>
    if c ≤ '\x1f' then fail .controlCharacter (c :: rest) else string fuel (c :: done) rest

def digits (text : List Char) : Step (List Char × List Char) :=
  match spanDigits text with
  | ([], []) => fail .endInValue []
  | ([], rest) => fail .number rest
  | found => .ok found

def exponent (text : List Char) : Step (Option (Bool × List Char) × List Char) :=
  match text with
  | e :: rest =>
    if e == 'e' || e == 'E' then do
      let (negative, more) := match rest with
        | '-' :: more => (true, more)
        | '+' :: more => (false, more)
        | more => (false, more)
      let (found, after) ← digits more
      return (some (negative, found), after)
    else return (none, text)
  | [] => return (none, text)

def fraction (text : List Char) : Step (List Char × List Char) :=
  match text with
  | '.' :: rest => digits rest
  | _ => return ([], text)

def leading (text : List Char) : Step (List Char × List Char) :=
  match text with
  | '0' :: c :: rest => if c.isDigit then fail .number (c :: rest) else .ok (['0'], c :: rest)
  | _ => digits text

/-- A number after its sign. The digits of an integer and its sign are limited in number. -/
def number (negative : Bool) (text : List Char) : Step (Scalar × List Char) := do
  let (whole, afterWhole) ← leading text
  let sign := if negative then 1 else 0
  if digitLimit < sign + whole.length then fail .longNumber (text.drop (digitLimit + 1 - sign))
  let (part, afterFraction) ← fraction afterWhole
  let (power, after) ← exponent afterFraction
  return ((NumberText.mk whole part power).toScalar negative, after)

def memberName (fuel : Nat) (text : List Char) : Step (String × List Char) :=
  match text with
  | '"' :: rest => do
    let (name, named) ← string fuel [] rest
    match skip named with
    | [] => fail .endInObject []
    | ':' :: after => return (name, skip after)
    | other => fail .colon other
  | other => fail .key other

/-- A first member beyond the last level: its name is still read. -/
def tooDeep {α : Type} (fuel : Nat) (text : List Char) : Step α := do
  let (_, named) ← memberName fuel text
  if named.isEmpty then fail .endInValue [] else fail .depth named

mutual

def value (depth fuel : Nat) (text : List Char) : Step (Value × List Char) :=
  match fuel with
  | 0 => fail .endInValue []
  | fuel + 1 =>
    match text with
    | [] => fail .endInValue []
    | 'n' :: rest => return (.null, ← afterWord "ull".toList rest)
    | 't' :: rest => return (.bool true, ← afterWord "rue".toList rest)
    | 'f' :: rest => return (.bool false, ← afterWord "alse".toList rest)
    | 'N' :: rest => return (.float .notANumber, ← afterWord "aN".toList rest)
    | 'I' :: rest => return (.float (.infinity false), ← afterWord "nfinity".toList rest)
    | '-' :: 'I' :: rest => return (.float (.infinity true), ← afterWord "nfinity".toList rest)
    | '-' :: rest => do
      let (n, after) ← number true rest
      return (.scalar n, after)
    | '"' :: rest => do
      let (s, after) ← string (fuel + 1) [] rest
      return (.text s, after)
    | '[' :: rest =>
      match skip rest with
      | [] => fail .endInList []
      | ']' :: after => return (.list [], after)
      | inside =>
        if depth = 0 then fail .depth inside else elements (depth - 1) fuel [] inside
    | '\x7b' :: rest =>
      match skip rest with
      | [] => fail .endInObject []
      | '\x7d' :: after => return (.map [], after)
      | inside =>
        if depth = 0 then tooDeep (fuel + 1) inside else members (depth - 1) fuel [] inside
    | c :: rest =>
      if c.isDigit then do
        let (n, after) ← number false (c :: rest)
        return (.scalar n, after)
      else fail .value (c :: rest)

def elements (depth fuel : Nat) (done : List Value) (text : List Char) :
    Step (Value × List Char) :=
  match fuel with
  | 0 => fail .endInList []
  | fuel + 1 => do
    let (v, next) ← value depth fuel text
    match skip next with
    | [] => fail .endInList []
    | ']' :: after => return (.list (v :: done).reverse, after)
    | ',' :: rest =>
      match skip rest with
      | [] => fail .endInValue []
      | ']' :: after => fail .trailingComma (']' :: after)
      | more => elements depth fuel (v :: done) more
    | other => fail .listComma other

def members (depth fuel : Nat) (done : List (Scalar × Value)) (text : List Char) :
    Step (Value × List Char) :=
  match fuel with
  | 0 => fail .endInObject []
  | fuel + 1 => do
    let (name, named) ← memberName (fuel + 1) text
    let (v, next) ← value depth fuel named
    let entries := insertEntry done (.text name) v
    match skip next with
    | [] => fail .endInObject []
    | '\x7d' :: after => return (.map entries, after)
    | ',' :: rest =>
      match skip rest with
      | [] => fail .endInValue []
      | '\x7d' :: after => fail .trailingComma ('\x7d' :: after)
      | more => members depth fuel entries more
    | other => fail .objectComma other

end

def readRest (text : List Char) : Step Value := do
  let (v, next) ← value 200 (2 * text.length + 2) (skip text)
  match skip next with
  | [] => return v
  | rest => fail .trailingCharacters rest

def byteLength (text : List Char) : Nat := text.foldl (fun n c => n + c.utf8Size) 0

def position (text rest : List Char) : Nat × Nat :=
  let before := text.take (text.length - rest.length)
  let line := (before.filter (· == '\n')).length + 1
  let column := byteLength (before.reverse.takeWhile (· != '\n'))
  match rest with
  | [] => (line, column)
  | '\n' :: _ => (line + 1, 0)
  | _ => (line, column + 1)

def read (text : List Char) : Except String Value :=
  match readRest text with
  | .ok v => .ok v
  | .error failure =>
    let (line, column) := position text failure.rest
    .error (failure.cause.message ++ s!" at line {line} column {column}")

end ApiSchema.Json.Strict
