import ApiSchema.Check.Scalar

namespace ApiSchema.Check

inductive DateFault where
  | short
  | yearCharacter
  | separator
  | monthCharacter
  | dayCharacter
  | monthRange
  | dayRange
  | extraCharacters
  | tooEarly
  | tooLate
deriving DecidableEq

def DateFault.reason : DateFault → String
  | short => "input is too short"
  | yearCharacter => "invalid character in year"
  | separator => "invalid date separator, expected `-`"
  | monthCharacter => "invalid character in month"
  | dayCharacter => "invalid character in day"
  | monthRange => "month value is outside expected range of 1-12"
  | dayRange => "day value is outside expected range"
  | extraCharacters => "unexpected extra characters at the end of the input"
  | tooEarly => "dates before 1600 are not supported as unix timestamps"
  | tooLate => "dates after 9999 are not supported as unix timestamps"

def fixedDigits? (text : List Char) : Option Nat :=
  if text.all Char.isDigit then some (naturalOfDigits (text.filterMap asciiDigit?)) else none

def leadingDate (text : List Char) : Except DateFault Date :=
  if text.length < 10 then .error .short
  else
    match fixedDigits? (text.take 4) with
    | none => .error .yearCharacter
    | some year =>
      if (text.drop 4).head? != some '-' then .error .separator
      else
        match fixedDigits? ((text.drop 5).take 2) with
        | none => .error .monthCharacter
        | some month =>
          if (text.drop 7).head? != some '-' then .error .separator
          else
            match fixedDigits? ((text.drop 8).take 2) with
            | none => .error .dayCharacter
            | some day =>
              if month < 1 || 12 < month then .error .monthRange
              else if day < 1 || Date.daysInMonth year month < day then .error .dayRange
              else .ok ⟨year, month, day⟩

def momentOfSeconds (seconds : Int) (micro : Nat) : Except DateFault Moment :=
  if seconds < -11676096000 then .error .tooEarly
  else if 253402300799 < seconds then .error .tooLate
  else .ok (.ofSeconds seconds micro (some 0))

def momentOfCount (count : Int) (micro : Nat) : Except DateFault Moment :=
  if count.natAbs ≤ 20000000000 then momentOfSeconds count micro
  else momentOfSeconds (count.fdiv 1000) ((count.fmod 1000).toNat * 1000 + micro / 1000)

def floorAndMicro (x : Binary64) : Option (Int × Nat) :=
  match x.shape with
  | .finite negative significand exponent =>
    let power := twoTo exponent.natAbs
    if 0 ≤ exponent then some (signed negative (significand * power), 0)
    else
      let whole := significand / power
      let rest := significand % power
      let micro := (2 * rest * 1000000 + power) / (2 * power)
      some (if negative && rest ≠ 0 then -(whole : Int) - 1 else signed negative whole, micro)
  | _ => none

def countOfText? (text : List Char) : Option (Int × Nat) :=
  let (negative, body) := splitSign text
  let whole := body.takeWhile (· != '.')
  let fraction := body.dropWhile (· != '.')
  if whole.isEmpty || !whole.all Char.isDigit then none
  else if fraction.isEmpty then some (signed negative (naturalOfDigits (whole.filterMap asciiDigit?)), 0)
  else if (fraction.drop 1).all Char.isDigit then (decimalOf? negative body).bind floorAndMicro
  else none

def offsetDigits? : List Char → Option Int
  | [a, b, ':', c, d] | [a, b, c, d] => do
    let hours ← fixedDigits? [a, b]
    let minutes ← fixedDigits? [c, d]
    if minutes ≤ 59 && hours ≤ 23 then some (hours * 3600 + minutes * 60) else none
  | _ => none

def offset? : List Char → Option (Option Int)
  | [] => some none
  | ['Z'] | ['z'] => some (some 0)
  | '+' :: rest => (offsetDigits? rest).map some
  | '-' :: rest | '−' :: rest => (offsetDigits? rest).map fun s => some (-s)
  | _ => none

/-- The millionths that a fraction of a second shows; further digits are cut off. -/
def microOf (digits : List Char) : Nat :=
  naturalOfDigits (((digits ++ List.replicate 6 '0').take 6).filterMap asciiDigit?)

def seconds? : List Char → Option (Nat × Nat × List Char)
  | ':' :: a :: b :: rest => do
    let second ← fixedDigits? [a, b]
    if 59 < second then none
    else
      match rest with
      | '.' :: more | ',' :: more =>
        let digits := more.takeWhile Char.isDigit
        if digits.isEmpty then none else some (second, microOf digits, more.dropWhile Char.isDigit)
      | more => some (second, 0, more)
  | rest => some (0, 0, rest)

def timeOf? (date : Date) : List Char → Option Moment
  | a :: b :: ':' :: c :: d :: rest => do
    let hour ← fixedDigits? [a, b]
    let minute ← fixedDigits? [c, d]
    let (second, micro, rest) ← seconds? rest
    let offset ← offset? rest
    if hour ≤ 23 && minute ≤ 59 then some ⟨date, hour, minute, second, micro, offset⟩ else none
  | _ => none

def dateAndTime? (text : List Char) : Option Moment :=
  match leadingDate text, text.drop 10 with
  | .ok date, separator :: time =>
    if ['T', 't', ' ', '_'].contains separator then timeOf? date time else none
  | _, _ => none

def midnight (date : Date) : Moment := ⟨date, 0, 0, 0, 0, none⟩

def dateOnly (text : List Char) : Except DateFault Date := do
  let date ← leadingDate text
  if text.length = 10 then return date else .error .extraCharacters

def momentOfText (s : String) : Checked Moment :=
  let chars := s.toList
  match dateAndTime? chars with
  | some m => .ok m
  | none =>
    match countOfText? chars with
    | some (count, micro) => ofCount (momentOfCount count micro)
    | none =>
      match dateOnly chars with
      | .ok date => .ok (midnight date)
      | .error fault => .fail (.momentDate fault.reason)
where
  ofCount : Except DateFault Moment → Checked Moment
    | .ok m => .ok m
    | .error fault => .fail (.momentDate fault.reason)

def moment : Check Moment
  | .scalar (.moment m) => .ok m
  | .scalar (.date d) => .ok (midnight d)
  | .scalar (.text s) => momentOfText s
  | .scalar (.int n) => momentOfText.ofCount (momentOfCount n 0)
  | .scalar (.float x) =>
    match floorAndMicro x with
    | some (count, micro) => momentOfText.ofCount (momentOfCount count micro)
    | none =>
      if x.isNan then .fail (.momentText "NaN values not permitted")
      else .fail (.momentText (if x.isNegative then DateFault.tooEarly else .tooLate).reason)
  | .scalar (.bytes b) =>
    match spelled? b with
    | some s => momentOfText s
    | none => .fail .moment
  | _ => .fail .moment

end ApiSchema.Check
