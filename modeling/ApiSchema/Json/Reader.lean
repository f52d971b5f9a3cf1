import ApiSchema.Text.Table
import ApiSchema.Value.Basic

namespace ApiSchema.Json

inductive Cause where
  | byteOrderMark
  | value
  | extraData
  | propertyName
  | colon
  | comma
  | unterminated
  | controlCharacter
  | escape
  | unicodeEscape
  | longInteger
  | depth
deriving DecidableEq

def Cause.message : Cause → String
  | .byteOrderMark => "Unexpected UTF-8 BOM (decode using utf-8-sig)"
  | .value => "Expecting value"
  | .extraData => "Extra data"
  | .propertyName => "Expecting property name enclosed in double quotes"
  | .colon => "Expecting ':' delimiter"
  | .comma => "Expecting ',' delimiter"
  | .unterminated => "Unterminated string starting at"
  | .controlCharacter => "Invalid control character at"
  | .escape => "Invalid \\escape"
  | .unicodeEscape => "Invalid \\uXXXX escape"
  | .longInteger => "Exceeds the limit for integer string conversion"
  | .depth => "Nested too deeply"

structure Failure where
  cause : Cause
  offset : Nat
deriving DecidableEq

structure Cursor where
  rest : List Char
  offset : Nat

def fail {α : Type} (cause : Cause) (offset : Nat) : Except Failure α := .error ⟨cause, offset⟩

def isSpace (c : Char) : Bool := c == ' ' || c == '\t' || c == '\n' || c == '\r'

def Cursor.skip (at_ : Cursor) : Cursor :=
  ⟨at_.rest.dropWhile isSpace, at_.offset + (at_.rest.takeWhile isSpace).length⟩

def hexValue? (c : Char) : Option Nat :=
  if c.isDigit then some (c.toNat - 48)
  else if 'a' ≤ c ∧ c ≤ 'f' then some (c.toNat - 87)
  else if 'A' ≤ c ∧ c ≤ 'F' then some (c.toNat - 55)
  else none

def fourHex? : List Char → Option Nat
  | [a, b, c, d] => do
    return (((← hexValue? a) * 16 + (← hexValue? b)) * 16 + (← hexValue? c)) * 16 + (← hexValue? d)
  | _ => none

def simpleEscape? : Char → Option Char
  | '"' => some '"'
  | '\\' => some '\\'
  | '/' => some '/'
  | 'b' => some '\x08'
  | 'f' => some '\x0c'
  | 'n' => some '\n'
  | 'r' => some '\r'
  | 't' => some '\t'
  | _ => none

def joinSurrogates (high low : Nat) : Char :=
  Char.ofNat (0x10000 + (high - 0xd800) * 0x400 + (low - 0xdc00))

def isHighSurrogate (n : Nat) : Bool := 0xd800 ≤ n && n < 0xdc00

def isLowSurrogate (n : Nat) : Bool := 0xdc00 ≤ n && n < 0xe000

def lowSurrogate? : List Char → Option Nat
  | '\\' :: 'u' :: rest => (fourHex? (rest.take 4)).filter isLowSurrogate
  | _ => none

/-- The text after an opening quote at `start`; `done` holds what was read, in reverse. -/
def stringFrom (start : Nat) (done : List Char) (text : List Char) (offset : Nat) :
    Except Failure (String × Cursor) :=
  match text with
  | [] => fail .unterminated start
  | '"' :: rest => .ok (String.ofList done.reverse, ⟨rest, offset + 1⟩)
  | '\\' :: 'u' :: rest =>
    match fourHex? (rest.take 4) with
    | some n =>
      if (rest.drop 4).isEmpty then fail .unicodeEscape (offset + 1)
      else if isHighSurrogate n then
        match lowSurrogate? (rest.drop 4) with
        | some low => stringFrom start (joinSurrogates n low :: done) (rest.drop 10) (offset + 12)
        | none => stringFrom start (Text.ofCode n :: done) (rest.drop 4) (offset + 6)
      else stringFrom start (Text.ofCode n :: done) (rest.drop 4) (offset + 6)
    | none => fail .unicodeEscape (offset + 1)
  | '\\' :: c :: rest =>
    match simpleEscape? c with
    | some d => stringFrom start (d :: done) rest (offset + 2)
    | none => fail .escape offset
  | ['\\'] => fail .unterminated start
  | c :: rest =>
    if c ≤ '\x1f' then fail .controlCharacter offset
    else stringFrom start (c :: done) rest (offset + 1)
termination_by text.length
decreasing_by all_goals simp only [List.length_drop, List.length_cons]; omega

def spanDigits (text : List Char) : List Char × List Char :=
  (text.takeWhile Char.isDigit, text.dropWhile Char.isDigit)

def naturalOf (digits : List Char) : Nat :=
  digits.foldl (fun n c => 10 * n + (c.toNat - 48)) 0

def spanFraction : List Char → List Char × List Char
  | '.' :: rest =>
    match spanDigits rest with
    | ([], _) => ([], '.' :: rest)
    | found => found
  | text => ([], text)

def spanExponent (text : List Char) : Option (Bool × List Char) × List Char :=
  match text with
  | e :: rest =>
    if e == 'e' || e == 'E' then
      let (negative, digits) := match rest with
        | '-' :: more => (true, more)
        | '+' :: more => (false, more)
        | more => (false, more)
      match spanDigits digits with
      | ([], _) => (none, text)
      | (found, after) => (some (negative, found), after)
    else (none, text)
  | [] => (none, text)

structure NumberText where
  whole : List Char
  fraction : List Char
  exponent : Option (Bool × List Char)

def NumberText.isFloat (n : NumberText) : Bool := !n.fraction.isEmpty || n.exponent.isSome

def NumberText.toScalar (negative : Bool) (n : NumberText) : Scalar :=
  if n.isFloat then
    let power : Int := match n.exponent with
      | some (true, digits) => -(naturalOf digits : Int)
      | some (false, digits) => naturalOf digits
      | none => 0
    .float (.ofDecimal negative (naturalOf (n.whole ++ n.fraction)) (power - n.fraction.length))
  else .int (if negative then -(naturalOf n.whole : Int) else naturalOf n.whole)

def spanNumber? (text : List Char) : Option (NumberText × List Char) :=
  match text with
  | '0' :: rest => finish ['0'] rest
  | _ =>
    match spanDigits text with
    | ([], _) => none
    | (whole, rest) => finish whole rest
where
  finish (whole rest : List Char) : Option (NumberText × List Char) :=
    let (fraction, afterFraction) := spanFraction rest
    let (exponent, after) := spanExponent afterFraction
    some (⟨whole, fraction, exponent⟩, after)

def words : List (String × Scalar) :=
  [("null", .null), ("true", .bool true), ("false", .bool false), ("NaN", .float .notANumber),
   ("Infinity", .float (.infinity false)), ("-Infinity", .float (.infinity true))]

def word? (text : List Char) : Option (Scalar × Nat) :=
  (words.find? fun (word, _) => word.toList.isPrefixOf text).map fun (word, v) => (v, word.length)

def isNumberChar (c : Char) : Bool :=
  c.isDigit || c == '+' || c == '-' || c == '.' || c == 'e' || c == 'E'

def number? (text : List Char) : Option (Bool × NumberText × Nat) :=
  let span := text.takeWhile isNumberChar
  let (negative, digits) := match span with
    | '-' :: rest => (true, rest)
    | other => (false, other)
  (spanNumber? digits).map fun (n, rest) => (negative, n, span.length - rest.length)

def Cursor.advance (at_ : Cursor) (count : Nat) : Cursor :=
  ⟨at_.rest.drop count, at_.offset + count⟩

def number (at_ : Cursor) : Except Failure (Value × Cursor) :=
  match number? at_.rest with
  | some (negative, n, length) =>
    if !n.isFloat && digitLimit < n.whole.length then fail .longInteger at_.offset
    else .ok (.scalar (n.toScalar negative), at_.advance length)
  | none => fail .value at_.offset

mutual

/-- One value at a cursor that stands at no blank, with at most `depth` lists and objects around
each other in it. `fuel` bounds the steps; twice the length of the text is enough. -/
def value (depth fuel : Nat) (at_ : Cursor) : Except Failure (Value × Cursor) :=
  match fuel with
  | 0 => fail .value at_.offset
  | fuel + 1 =>
    match at_.rest with
    | '"' :: rest => do
      let (s, after) ← stringFrom at_.offset [] rest (at_.offset + 1)
      return (.text s, after)
    | '\x7b' :: rest =>
      let inside := Cursor.skip ⟨rest, at_.offset + 1⟩
      match depth, inside.rest with
      | 0, _ => fail .depth at_.offset
      | _, '\x7d' :: after => .ok (.map [], ⟨after, inside.offset + 1⟩)
      | depth + 1, _ => members depth fuel [] inside
    | '[' :: rest =>
      let inside := Cursor.skip ⟨rest, at_.offset + 1⟩
      match depth, inside.rest with
      | 0, _ => fail .depth at_.offset
      | _, ']' :: after => .ok (.list [], ⟨after, inside.offset + 1⟩)
      | depth + 1, _ => elements depth fuel [] inside
    | text =>
      match word? text with
      | some (s, length) => .ok (.scalar s, at_.advance length)
      | none => number at_

def elements (depth fuel : Nat) (done : List Value) (at_ : Cursor) : Except Failure (Value × Cursor) :=
  match fuel with
  | 0 => fail .value at_.offset
  | fuel + 1 => do
    let (v, next) ← value depth fuel at_
    let after := next.skip
    match after.rest with
    | ']' :: rest => return (.list (v :: done).reverse, ⟨rest, after.offset + 1⟩)
    | ',' :: rest => elements depth fuel (v :: done) (Cursor.skip ⟨rest, after.offset + 1⟩)
    | _ => fail .comma after.offset

def members (depth fuel : Nat) (done : List (Scalar × Value)) (at_ : Cursor) :
    Except Failure (Value × Cursor) :=
  match fuel with
  | 0 => fail .propertyName at_.offset
  | fuel + 1 =>
    match at_.rest with
    | '"' :: rest => do
      let (name, named) ← stringFrom at_.offset [] rest (at_.offset + 1)
      let colon := named.skip
      match colon.rest with
      | ':' :: rest => do
        let (v, next) ← value depth fuel (Cursor.skip ⟨rest, colon.offset + 1⟩)
        let entries := insertEntry done (.text name) v
        let after := next.skip
        match after.rest with
        | '\x7d' :: rest => return (.map entries, ⟨rest, after.offset + 1⟩)
        | ',' :: rest => members depth fuel entries (Cursor.skip ⟨rest, after.offset + 1⟩)
        | _ => fail .comma after.offset
      | _ => fail .colon colon.offset
    | _ => fail .propertyName at_.offset

end

def readWithin (depth : Nat) (text : List Char) : Except Failure Value :=
  match text with
  | '\ufeff' :: _ => .error ⟨.byteOrderMark, 0⟩
  | _ => do
    let start := Cursor.skip ⟨text, 0⟩
    let (v, next) ← value depth (2 * text.length + 2) start
    let after := next.skip
    if after.rest.isEmpty then return v else .error ⟨.extraData, after.offset⟩

def usualDepth : Nat := 990

def read (text : List Char) : Except Failure Value := readWithin text.length text

def lineAndColumn (text : List Char) (offset : Nat) : Nat × Nat :=
  let before := text.take offset
  ((before.filter (· == '\n')).length + 1, (before.reverse.takeWhile (· != '\n')).length + 1)

def Failure.message (failure : Failure) (text : List Char) : String :=
  let (line, column) := lineAndColumn text failure.offset
  failure.cause.message ++ s!": line {line} column {column} (char {failure.offset})"

end ApiSchema.Json
