import ApiSchema.Number.Reading
import ApiSchema.Toml.Text
import ApiSchema.Value.Basic

namespace ApiSchema.Toml

def spanMore (test : Char → Bool) : List Char → List Char × List Char
  | '_' :: d :: rest =>
    if test d then
      let (digits, after) := spanMore test rest
      (d :: digits, after)
    else ([], '_' :: d :: rest)
  | d :: rest =>
    if test d then
      let (digits, after) := spanMore test rest
      (d :: digits, after)
    else ([], d :: rest)
  | [] => ([], [])

def spanDigits (test : Char → Bool) (text : List Char) : List Char × List Char :=
  match text with
  | '_' :: _ => ([], text)
  | text => spanMore test text

def bases : List (Char × Nat) := [('x', 16), ('b', 2), ('o', 8)]

def isDigitOf (base : Nat) (c : Char) : Bool := Text.isHexDigit c && Text.hexDigit c < base

def based? (text : List Char) : Option (Int × List Char) :=
  match text with
  | '0' :: letter :: rest =>
    (bases.lookup letter).bind fun base =>
      let (digits, after) := spanDigits (isDigitOf base) rest
      if digits.isEmpty then none
      else some ((digits.foldl (fun n c => base * n + Text.hexDigit c) 0 : Nat), after)
  | _ => none

def spanFraction (text : List Char) : List Char × List Char :=
  match text with
  | '.' :: rest =>
    let (digits, after) := spanDigits Char.isDigit rest
    if digits.isEmpty then ([], text) else ('.' :: digits, after)
  | text => ([], text)

def spanExponent (text : List Char) : List Char × List Char :=
  match text with
  | e :: rest =>
    if e == 'e' || e == 'E' then
      let (sign, body) := match rest with
        | '+' :: body => (['+'], body)
        | '-' :: body => (['-'], body)
        | body => ([], body)
      let (digits, after) := spanDigits Char.isDigit body
      if digits.isEmpty then ([], text) else ('e' :: sign ++ digits, after)
    else ([], text)
  | text => ([], text)

def decimal? (text : List Char) : Option (Step (Scalar × List Char)) :=
  let (negative, body) := splitSign text
  let (whole, after) := match body with
    | '0' :: rest => (['0'], rest)
    | body => spanDigits Char.isDigit body
  if whole.isEmpty then none
  else
    let (fraction, after) := spanFraction after
    let (exponent, after) := spanExponent after
    if fraction.isEmpty && exponent.isEmpty then
      some (if digitLimit < whole.length then .error .number
        else .ok (.int (signed negative (naturalOfDigits (whole.filterMap asciiDigit?))), after))
    else
      (decimalOf? negative (whole ++ fraction ++ exponent)).map fun x => .ok (.float x, after)

def wordsOf : List (String × Scalar) :=
  [("true", .bool true), ("false", .bool false), ("inf", .float (.infinity false)),
    ("+inf", .float (.infinity false)), ("-inf", .float (.infinity true)),
    ("nan", .float .notANumber), ("+nan", .float .notANumber), ("-nan", .float .notANumber)]

def word? (text : List Char) : Option (Scalar × List Char) :=
  (wordsOf.find? fun (word, _) => startsWith word text).map fun (word, v) =>
    (v, text.drop word.length)

def field? (length least most : Nat) (text : List Char) : Option (Nat × List Char) :=
  let digits := text.take length
  let n := naturalOfDigits (digits.filterMap asciiDigit?)
  if digits.length = length && digits.all Char.isDigit && least ≤ n && n ≤ most then
    some (n, text.drop length)
  else none

def expect? (c : Char) : List Char → Option (List Char)
  | first :: rest => if first == c then some rest else none
  | [] => none

structure Clock where
  hour : Nat
  minute : Nat
  second : Nat
  micro : Nat

def clock? (text : List Char) : Option (Clock × List Char) := do
  let (hour, rest) ← field? 2 0 23 text
  let (minute, rest) ← field? 2 0 59 (← expect? ':' rest)
  let (second, rest) ← field? 2 0 59 (← expect? ':' rest)
  let digits := match rest with
    | '.' :: more => more.takeWhile Char.isDigit
    | _ => []
  let kept := digits.take 6
  let micro := naturalOfDigits (kept.filterMap asciiDigit?) * tenTo (6 - kept.length)
  let rest := if digits.isEmpty then rest else rest.drop (digits.length + 1)
  return (⟨hour, minute, second, micro⟩, rest)

def offset? (text : List Char) : Option (Int × List Char) :=
  match text with
  | 'Z' :: rest | 'z' :: rest => some (0, rest)
  | sign :: rest => do
    if sign != '+' && sign != '-' then none
    let (hours, rest) ← field? 2 0 23 rest
    let (minutes, rest) ← field? 2 0 59 (← expect? ':' rest)
    return (signed (sign == '-') (hours * 3600 + minutes * 60), rest)
  | [] => none

def momentOf (date : Date) (c : Clock) (offset : Option Int) : Moment :=
  { date, hour := c.hour, minute := c.minute, second := c.second, micro := c.micro, offset }

def date? (text : List Char) : Option (Step (Scalar × List Char)) := do
  let (year, rest) ← field? 4 0 9999 text
  let (month, rest) ← field? 2 1 12 (← expect? '-' rest)
  let (day, rest) ← field? 2 1 31 (← expect? '-' rest)
  let date : Date := ⟨year, month, day⟩
  let (scalar, rest) := match rest with
    | c :: more =>
      if c == 'T' || c == 't' || c == ' ' then
        match clock? more with
        | some (clock, rest) =>
          match offset? rest with
          | some (offset, rest) => (Scalar.moment (momentOf date clock (some offset)), rest)
          | none => (.moment (momentOf date clock none), rest)
        | none => (.date date, rest)
      else (.date date, rest)
    | [] => (.date date, rest)
  return if date.isValid then .ok (scalar, rest) else malformed

def firstDay : Date := ⟨1, 1, 1⟩

def scalar (text : List Char) : Step (Scalar × List Char) :=
  match date? text with
  | some result => result
  | none =>
    match clock? text with
    | some (clock, rest) => .ok (.moment (momentOf firstDay clock none), rest)
    | none =>
      match based? text with
      | some (n, rest) => .ok (.int n, rest)
      | none =>
        match decimal? text with
        | some result => result
        | none =>
          match word? text with
          | some found => .ok found
          | none => malformed

end ApiSchema.Toml
