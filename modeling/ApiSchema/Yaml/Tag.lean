import ApiSchema.Text.Table

namespace ApiSchema.Yaml

inductive Tag where
  | null
  | bool
  | int
  | float
  | timestamp
  | binary
  | str
  | seq
  | map
  | set
  | omap
  | pairs
  | merge
  | value
  | other (name : String)
deriving DecidableEq

namespace Tag

def known : List (String × Tag) :=
  [("null", .null), ("bool", .bool), ("int", .int), ("float", .float), ("timestamp", .timestamp),
    ("binary", .binary), ("str", .str), ("seq", .seq), ("map", .map), ("set", .set),
    ("omap", .omap), ("pairs", .pairs), ("merge", .merge), ("value", .value)]

def nameStart : String := "tag:yaml.org,2002:"

def ofName (name : String) : Tag :=
  match known.find? fun (short, _) => nameStart ++ short == name with
  | some (_, tag) => tag
  | none => .other name

end Tag

def nullWords : List String := ["", "~", "null", "Null", "NULL"]

def trueWords : List String := ["yes", "true", "on"]

def falseWords : List String := ["no", "false", "off"]

def isSpelling (word : List Char) (text : List Char) : Bool :=
  text == word || text == word.map Char.toUpper ||
    text == (word.take 1).map Char.toUpper ++ word.drop 1

def isBoolWord (text : List Char) : Bool :=
  (trueWords ++ falseWords).any fun word => isSpelling word.toList text

def withoutSign : List Char → List Char
  | '+' :: rest | '-' :: rest => rest
  | text => text

def isDigitOrLine (c : Char) : Bool := c.isDigit || c == '_'

def isDigitRun (text : List Char) : Bool :=
  (text.head?.any Char.isDigit) && text.all isDigitOrLine

def isSixtieth (text : List Char) : Bool :=
  match text with
  | [a] => a.isDigit
  | [a, b] => a.isDigit && a ≤ '5' && b.isDigit
  | _ => false

def isSexagesimal (isFirst : List Char → Bool) (isLast : List Char → Bool)
    (parts : List (List Char)) : Bool :=
  match parts with
  | first :: rest =>
    match rest.reverse with
    | last :: middle => isFirst first && middle.all isSixtieth && isLast last
    | [] => false
  | [] => false

def startsAtOne (text : List Char) : Bool := isDigitRun text && text.head? != some '0'

def isInt (text : List Char) : Bool :=
  let body := withoutSign text
  let digitsIn (test : Char → Bool) (digits : List Char) : Bool :=
    !digits.isEmpty && digits.all fun c => test c || c == '_'
  match body with
  | '0' :: 'b' :: digits => digitsIn (fun c => c == '0' || c == '1') digits
  | '0' :: 'x' :: digits =>
    digitsIn Text.isHexDigit digits
  | ['0'] => true
  | '0' :: digits => digitsIn (fun c => '0' ≤ c && c ≤ '7') digits
  | _ => startsAtOne body || isSexagesimal startsAtOne isSixtieth (Text.splitOn ':' body)

def isExponent (text : List Char) : Bool :=
  match text with
  | [] => true
  | e :: sign :: digits =>
    (e == 'e' || e == 'E') && (sign == '+' || sign == '-') && !digits.isEmpty && digits.all Char.isDigit
  | _ => false

def isFraction (text : List Char) : Bool := text.all isDigitOrLine

def isDecimal (text : List Char) : Bool :=
  let mantissa := text.takeWhile fun c => c != 'e' && c != 'E'
  let exponent := text.drop mantissa.length
  mantissa.contains '.' && isExponent exponent &&
    (let (whole, fraction) := Text.cutAt '.' mantissa
     isDigitRun whole && isFraction fraction)

def isBareFraction (text : List Char) : Bool :=
  match text with
  | '.' :: rest =>
    let digits := rest.takeWhile fun c => c != 'e' && c != 'E'
    isDigitRun digits && isExponent (rest.drop digits.length)
  | _ => false

def isSixtiethWithFraction (text : List Char) : Bool :=
  text.contains '.' &&
    (let (whole, fraction) := Text.cutAt '.' text
     isSixtieth whole && isFraction fraction)

def isFloat (text : List Char) : Bool :=
  let body := withoutSign text
  isDecimal body || isBareFraction text ||
    isSexagesimal isDigitRun isSixtiethWithFraction (Text.splitOn ':' body) ||
    (body.head? == some '.' && isSpelling "inf".toList (body.drop 1)) ||
    (text.head? == some '.' && (["nan", "NaN", "NAN"].any fun w => w.toList == text.drop 1))

structure TimestampText where
  year : List Char
  month : List Char
  day : List Char
  clock : Option (List Char × List Char × List Char × List Char)
  /-- Whether the offset is to the west, its hours and its minutes; two empty texts for `Z`. -/
  zone : Option (Bool × List Char × List Char)

def isBlankChar (c : Char) : Bool := c == ' ' || c == '\t'

def takeDigits? (least most : Nat) (text : List Char) : Option (List Char × List Char) :=
  let digits := (text.take most).takeWhile Char.isDigit
  if digits.length < least then none else some (digits, text.drop digits.length)

def expect? (c : Char) : List Char → Option (List Char)
  | first :: rest => if first == c then some rest else none
  | [] => none

def zoneOf? (text : List Char) : Option (Option (Bool × List Char × List Char)) :=
  if text.isEmpty then some none
  else
    match text.dropWhile isBlankChar with
    | ['Z'] => some (some (false, [], []))
    | sign :: rest => do
      if sign != '+' && sign != '-' then none
      let (hours, rest) ← takeDigits? 1 2 rest
      let minutes ← match rest with
        | [] => some []
        | rest => do
          let (minutes, rest) ← takeDigits? 2 2 (← expect? ':' rest)
          if rest.isEmpty then some minutes else none
      return some (sign == '-', hours, minutes)
    | [] => none

def afterDate? (text : List Char) : Option (List Char) :=
  match text with
  | 'T' :: rest | 't' :: rest => some rest
  | c :: _ => if isBlankChar c then some (text.dropWhile isBlankChar) else none
  | [] => none

def timestampOf? (text : List Char) : Option TimestampText := do
  let (year, rest) ← takeDigits? 4 4 text
  let (month, rest) ← takeDigits? 1 2 (← expect? '-' rest)
  let (day, rest) ← takeDigits? 1 2 (← expect? '-' rest)
  if rest.isEmpty then return ⟨year, month, day, none, none⟩
  let (hour, rest) ← takeDigits? 1 2 (← afterDate? rest)
  let (minute, rest) ← takeDigits? 2 2 (← expect? ':' rest)
  let (second, rest) ← takeDigits? 2 2 (← expect? ':' rest)
  let (fraction, rest) := match rest with
    | '.' :: rest => (rest.takeWhile Char.isDigit, rest.dropWhile Char.isDigit)
    | rest => ([], rest)
  let zone ← zoneOf? rest
  return ⟨year, month, day, some (hour, minute, second, fraction), zone⟩

def isTimestamp (text : List Char) : Bool :=
  match timestampOf? text with
  | some t => t.clock.isSome || (t.month.length = 2 && t.day.length = 2)
  | none => false

def Tag.ofPlain (text : String) : Tag :=
  let chars := text.toList
  let chars := if chars.getLast? == some '\n' then chars.dropLast else chars
  if isBoolWord chars then .bool
  else if isFloat chars then .float
  else if isInt chars then .int
  else if chars == ['<', '<'] then .merge
  else if nullWords.contains (String.ofList chars) then .null
  else if isTimestamp chars then .timestamp
  else if chars == ['='] then .value
  else .str

end ApiSchema.Yaml
