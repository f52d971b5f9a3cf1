import ApiSchema.Toml.Scalar
import ApiSchema.Toml.Table

namespace ApiSchema.Toml

def isBareChar (c : Char) : Bool := c.isAlpha || c.isDigit || c == '-' || c == '_'

def keyPart (text : List Char) : Step (String × List Char) :=
  match text with
  | '\'' :: rest => (literal rest).map fun (s, rest) => (String.ofList s, rest)
  | '"' :: rest => (basic false rest).map fun (s, rest) => (String.ofList s, rest)
  | text =>
    let name := text.takeWhile isBareChar
    if name.isEmpty then malformed else .ok (String.ofList name, text.drop name.length)

def keyRest : Nat → Key → List Char → Step (Key × List Char)
  | 0, _, _ => malformed
  | fuel + 1, done, text => do
    let (part, text) ← keyPart text
    match skipBlanks text with
    | '.' :: rest => keyRest fuel (done ++ [part]) (skipBlanks rest)
    | rest => return (done ++ [part], rest)

def key (text : List Char) : Step (Key × List Char) := keyRest (text.length + 1) [] text

def splitKey (k : Key) : Key × String := (k.dropLast, k.getLast?.getD "")

def skipLines : Nat → List Char → Step (List Char)
  | 0, text => .ok text
  | fuel + 1, text => do
    let rest ← skipComment (text.dropWhile isBlankOrBreak)
    if rest.length = text.length then return rest else skipLines fuel rest

def skipSpace (text : List Char) : Step (List Char) := skipLines (text.length + 1) text

abbrev ReadValue := List Char → Step (Value × List Char)

def arrayRest (value : ReadValue) : Nat → List Value → List Char → Step (Value × List Char)
  | 0, _, _ => malformed
  | fuel + 1, done, text => do
    match ← skipSpace text with
    | ']' :: rest => return (.list done.reverse, rest)
    | text =>
      let (v, text) ← value text
      match ← skipSpace text with
      | ']' :: rest => return (.list (v :: done).reverse, rest)
      | ',' :: rest => arrayRest value fuel (v :: done) rest
      | _ => malformed

def keyValue (value : ReadValue) (text : List Char) : Step (Key × Value × List Char) := do
  let (k, text) ← key text
  match text with
  | '=' :: rest =>
    let (v, text) ← value (skipBlanks rest)
    return (k, v, text)
  | _ => malformed

def inlineRest (value : ReadValue) : Nat → Table → List Mark → List Char → Step (Value × List Char)
  | 0, _, _, _ => malformed
  | fuel + 1, t, marks, text => do
    let (k, v, text) ← keyValue value text
    if isMarked marks k .frozen then malformed
    let (parent, name) := splitKey k
    let t ← changeAt false (setNew name v) parent t
    match skipBlanks text with
    | '\x7d' :: rest => return (.map t, rest)
    | ',' :: rest =>
      let marks := if isCollection v then ⟨k, .frozen, true⟩ :: marks else marks
      inlineRest value fuel t marks (skipBlanks rest)
    | _ => malformed

def value : Nat → ReadValue
  | 0, _ => malformed
  | fuel + 1, text =>
    match string? text with
    | some result => result.map fun (s, rest) => (.text (String.ofList s), rest)
    | none =>
      match text with
      | '[' :: rest => arrayRest (value fuel) (rest.length + 1) [] rest
      | '\x7b' :: rest =>
        match skipBlanks rest with
        | '\x7d' :: rest => .ok (.map [], rest)
        | rest => inlineRest (value fuel) (rest.length + 1) [] [] rest
      | text => (scalar text).map fun (s, rest) => (.scalar s, rest)

structure Reader where
  table : Table := []
  marks : List Mark := []
  pending : List Mark := []
  header : Key := []

def declaredMark (key : Key) : Mark := ⟨key, .declared, false⟩

def tableHeader (r : Reader) (text : List Char) : Step (Reader × List Char) := do
  let (k, text) ← key (skipBlanks text)
  if isMarked r.marks k .declared || isMarked r.marks k .frozen then malformed
  let table ← changeAt true .ok k r.table
  match text with
  | ']' :: rest =>
    return ({ r with table, marks := declaredMark k :: r.marks, header := k }, rest)
  | _ => malformed

def arrayHeader (r : Reader) (text : List Char) : Step (Reader × List Char) := do
  let (k, text) ← key (skipBlanks text)
  if isMarked r.marks k .frozen then malformed
  let (parent, name) := splitKey k
  let table ← changeAt true (appendTable name) parent r.table
  match text with
  | ']' :: ']' :: rest =>
    return ({ r with table, marks := declaredMark k :: unmark r.marks k, header := k }, rest)
  | _ => malformed

def tablesOnTheWay (header key : Key) : List Key :=
  ((List.range key.length).drop 1).map fun n => header ++ key.take n

def entry (r : Reader) (text : List Char) : Step (Reader × List Char) := do
  let (k, v, text) ← keyValue (value (text.length + 1)) text
  let (parent, name) := splitKey k
  let passed := tablesOnTheWay r.header k
  if passed.any fun p => isMarked r.marks p .declared then malformed
  let whole := r.header ++ parent
  if isMarked r.marks whole .frozen then malformed
  let table ← changeAt true (setNew name v) whole r.table
  let marks := if isCollection v then ⟨r.header ++ k, .frozen, true⟩ :: r.marks else r.marks
  return ({ r with table, marks, pending := passed.map declaredMark ++ r.pending }, text)

def statement (r : Reader) (text : List Char) : Step (Reader × List Char) :=
  let settled : Reader := { r with marks := r.pending ++ r.marks, pending := [] }
  match text with
  | '[' :: '[' :: rest => arrayHeader settled rest
  | '[' :: rest => tableHeader settled rest
  | '#' :: _ => .ok (r, text)
  | text => entry r text

def statements : Nat → Reader → List Char → Step Reader
  | 0, r, _ => .ok r
  | fuel + 1, r, text => do
    match skipBlanks text with
    | [] => return r
    | '\n' :: rest => statements fuel r rest
    | text =>
      let (r, text) ← statement r text
      match ← skipComment (skipBlanks text) with
      | [] => return r
      | '\n' :: rest => statements fuel r rest
      | _ => malformed

def read (text : String) : Step Value := do
  let chars := withoutReturns text.toList
  let r ← statements (chars.length + 1) {} chars
  return .map r.table
where
  withoutReturns : List Char → List Char
    | '\r' :: '\n' :: rest => '\n' :: withoutReturns rest
    | c :: rest => c :: withoutReturns rest
    | [] => []

end ApiSchema.Toml
