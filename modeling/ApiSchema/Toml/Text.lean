import ApiSchema.Fault
import ApiSchema.Text.Table

namespace ApiSchema.Toml

inductive ReadFault where
  | malformed
  | number
deriving DecidableEq

abbrev Step := Except ReadFault

def malformed {α : Type} : Step α := .error .malformed

def isBlank (c : Char) : Bool := c == ' ' || c == '\t'

def isBlankOrBreak (c : Char) : Bool := isBlank c || c == '\n'

def isControl (c : Char) : Bool := c.toNat < 32 || c.toNat == 127

def isIllegal (c : Char) : Bool := isControl c && c != '\t'

def isIllegalInLines (c : Char) : Bool := isIllegal c && c != '\n'

def startsWith (word : String) (text : List Char) : Bool := word.toList.isPrefixOf text

def skipBlanks (text : List Char) : List Char := text.dropWhile isBlank

def skipComment (text : List Char) : Step (List Char) :=
  match text with
  | '#' :: rest =>
    if (rest.takeWhile (· != '\n')).any isIllegal then malformed else .ok (rest.dropWhile (· != '\n'))
  | text => .ok text

def hexChar (length : Nat) (text : List Char) : Step (Char × List Char) :=
  let digits := text.take length
  let code := Text.hexNumber digits
  if digits.length = length && digits.all Text.isHexDigit && code.isValidChar then
    .ok (Char.ofNat code, text.drop length)
  else malformed

def escapes : List (Char × Char) :=
  [('b', '\x08'), ('t', '\t'), ('n', '\n'), ('f', '\x0c'), ('r', '\r'), ('"', '"'), ('\\', '\\')]

def joinLines (text : List Char) : Step (List Char) :=
  match skipBlanks text with
  | [] => .ok []
  | '\n' :: rest => .ok (rest.dropWhile isBlankOrBreak)
  | _ => malformed

def escape (inLines : Bool) (text : List Char) : Step (List Char × List Char) :=
  match text with
  | [] => malformed
  | c :: rest =>
    if inLines && isBlankOrBreak c then (joinLines text).map fun rest => ([], rest)
    else if c == 'u' then (hexChar 4 rest).map fun (c, rest) => ([c], rest)
    else if c == 'U' then (hexChar 8 rest).map fun (c, rest) => ([c], rest)
    else
      match escapes.lookup c with
      | some plain => .ok ([plain], rest)
      | none => malformed

def basicRest (inLines : Bool) : Nat → List Char → List Char → Step (List Char × List Char)
  | 0, _, _ => malformed
  | fuel + 1, done, text =>
    match text with
    | [] => malformed
    | '"' :: rest =>
      if !inLines then .ok (done.reverse, rest)
      else if startsWith "\"\"" rest then .ok (done.reverse, rest.drop 2)
      else basicRest inLines fuel ('"' :: done) rest
    | '\\' :: rest => do
      let (escaped, rest) ← escape inLines rest
      basicRest inLines fuel (escaped.reverse ++ done) rest
    | c :: rest =>
      if (if inLines then isIllegalInLines c else isIllegal c) then malformed
      else basicRest inLines fuel (c :: done) rest

def basic (inLines : Bool) (text : List Char) : Step (List Char × List Char) :=
  basicRest inLines (text.length + 1) [] text

def literal (text : List Char) : Step (List Char × List Char) :=
  let body := text.takeWhile (· != '\'')
  match text.drop body.length with
  | [] => malformed
  | _ :: rest => if body.any isIllegal then malformed else .ok (body, rest)

def cutTriple : List Char → Option (List Char × List Char)
  | [] => none
  | c :: rest =>
    if startsWith "'''" (c :: rest) then some ([], rest.drop 2)
    else (cutTriple rest).map fun (body, rest) => (c :: body, rest)

def literalLines (text : List Char) : Step (List Char × List Char) :=
  match cutTriple text with
  | some (body, rest) => if body.any isIllegalInLines then malformed else .ok (body, rest)
  | none => malformed

/-- One or two further quotes behind the last three belong to the string. -/
def trailingQuotes (quote : Char) (body rest : List Char) : List Char × List Char :=
  let extra := (rest.take 2).takeWhile (· == quote)
  (body ++ extra, rest.drop extra.length)

def lines (quote : Char) (text : List Char) : Step (List Char × List Char) := do
  let text := match text with
    | '\n' :: rest => rest
    | text => text
  let (body, rest) ← if quote == '"' then basic true text else literalLines text
  return trailingQuotes quote body rest

def string? (text : List Char) : Option (Step (List Char × List Char)) :=
  match text with
  | '"' :: '"' :: '"' :: rest => some (lines '"' rest)
  | '"' :: rest => some (basic false rest)
  | '\'' :: '\'' :: '\'' :: rest => some (lines '\'' rest)
  | '\'' :: rest => some (literal rest)
  | _ => none

end ApiSchema.Toml
