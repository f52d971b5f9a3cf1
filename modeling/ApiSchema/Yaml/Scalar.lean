import ApiSchema.Number.Reading
import ApiSchema.Yaml.Tag
import ApiSchema.Yaml.Token

namespace ApiSchema.Yaml

def misused {α : Type} (m : Misuse) : Except LoadFault α := .error (.misuse m)

def orMisuse {α : Type} (m : Misuse) (result : Option α) : Except LoadFault α :=
  match result with
  | some a => .ok a
  | none => misused m

def decimalInt (text : List Char) : Except LoadFault Int :=
  if digitLimit < text.length then misused .value else orMisuse .value (integerOf? text)

def integerIn (base : Nat) (mark : Char) (text : List Char) : Except LoadFault Int :=
  let (negative, body) := splitSign (Text.trimBy isWhiteSpace text)
  let digits := match body with
    | '0' :: c :: rest => if c.toLower == mark then rest else body
    | _ => body
  let value (c : Char) : Nat :=
    if c.isDigit then c.toNat - 48
    else if c.isAlpha then c.toLower.toNat - 87
    else base
  if digits.isEmpty || digits.any fun c => base ≤ value c then misused .value
  else .ok (signed negative (digits.foldl (fun n c => base * n + value c) 0))

def sexagesimalInt (parts : List Int) : Int := parts.foldl (fun n d => 60 * n + d) 0

def intOf (text : List Char) : Except LoadFault Int := do
  let body := text.filter (· != '_')
  let negative := body.head? == some '-'
  let body := if body.isEmpty then body else withoutSign body
  let magnitude ← match body with
    | [] => misused .index
    | ['0'] => pure 0
    | '0' :: 'b' :: digits => integerIn 2 'b' digits
    | '0' :: 'x' :: digits => integerIn 16 'x' digits
    | '0' :: _ => integerIn 8 'o' body
    | _ =>
      if body.contains ':' then sexagesimalInt <$> (Text.splitOn ':' body).mapM decimalInt
      else decimalInt body
  return if negative then -magnitude else magnitude

def unitsOf (x : Binary64) : Int :=
  match x.shape with
  | .finite negative significand exponent =>
    signed negative (significand * twoTo (exponent + 1074).toNat)
  | _ => 0

def ofUnits (units : Int) : Binary64 := .ofRatio (decide (units < 0)) units.natAbs (twoTo 1074)

def sexagesimalFloat (parts : List Binary64) : Binary64 :=
  if parts.all Binary64.isFinite then
    (parts.foldl (fun (total, base) digit =>
      let product := ofUnits (unitsOf digit * base)
      (ofUnits (unitsOf total + unitsOf product), 60 * base)) (Binary64.zero false, (1 : Int))).1
  else .notANumber

def negated (x : Binary64) : Binary64 :=
  match x.shape with
  | .nan => x
  | _ => .pack (!x.isNegative) (x.bits.toNat % twoTo 63)

def plainFloat (text : List Char) : Except LoadFault Binary64 :=
  orMisuse .value (floatOf? (Text.trimBy isWhiteSpace text))

def floatOf (text : List Char) : Except LoadFault Binary64 := do
  let body := (text.filter (· != '_')).map Char.toLower
  if body.isEmpty then misused .index
  let negative := body.head? == some '-'
  let body := withoutSign body
  let magnitude ←
    if body == ".inf".toList then pure (.infinity false)
    else if body == ".nan".toList then pure .notANumber
    else if body.contains ':' then
      (sexagesimalFloat ·.reverse) <$> (Text.splitOn ':' body).mapM plainFloat
    else plainFloat body
  return if negative then negated magnitude else magnitude

def naturalIn (digits : List Char) : Nat := naturalOfDigits (digits.filterMap asciiDigit?)

def microsOf (fraction : List Char) : Nat :=
  let digits := fraction.take 6
  naturalIn digits * tenTo (6 - digits.length)

def secondsPerDay : Nat := 86400

def timestampOf (text : List Char) : Except LoadFault Scalar := do
  let t ← orMisuse .part (timestampOf? text)
  let date : Date := ⟨naturalIn t.year, naturalIn t.month, naturalIn t.day⟩
  if !date.isValid then misused .value
  match t.clock with
  | none => return .date date
  | some (hour, minute, second, fraction) =>
    let offset := t.zone.map fun (west, hours, minutes) =>
      (west, naturalIn hours * 3600 + naturalIn minutes * 60)
    let moment : Moment :=
      { date, hour := naturalIn hour, minute := naturalIn minute, second := naturalIn second
        micro := microsOf fraction
        offset := offset.map fun (west, seconds) => signed west seconds }
    if 24 ≤ moment.hour || 60 ≤ moment.minute || 60 ≤ moment.second ||
        offset.any fun (_, seconds) => secondsPerDay ≤ seconds then
      misused .value
    return .moment moment

def sixtyFour : List Char :=
  "ABCDEFGHIJKLMNOPQRSTUVWXYZabcdefghijklmnopqrstuvwxyz0123456789+/".toList

/-- Groups of six bits to bytes; `count` digits of a group of four have been read, and `left` holds
the bits of the last one. Other characters are passed over. -/
def bytesFrom (count left pads : Nat) (done : List UInt8) : List Char → Except LoadFault (List UInt8)
  | [] => if count = 0 then .ok done.reverse else .error .malformed
  | c :: rest =>
    if c == '=' then
      if 2 ≤ count && 4 ≤ count + pads + 1 then .ok done.reverse
      else bytesFrom count left (if 2 ≤ count then pads + 1 else pads) done rest
    else
      let digit := sixtyFour.idxOf c
      if digit = 64 then bytesFrom count left pads done rest
      else
        let byte (n : Nat) : List UInt8 := UInt8.ofNat (n % 256) :: done
        match count with
        | 0 => bytesFrom 1 digit 0 done rest
        | 1 => bytesFrom 2 (digit % 16) 0 (byte (left * 4 + digit / 16)) rest
        | 2 => bytesFrom 3 (digit % 4) 0 (byte (left * 16 + digit / 4)) rest
        | _ => bytesFrom 0 0 0 (byte (left * 64 + digit)) rest

def binaryOf (text : List Char) : Except LoadFault (List UInt8) :=
  if text.all fun c => c.toNat < 128 then bytesFrom 0 0 0 [] text else .error .malformed

def boolOf (text : List Char) : Except LoadFault Bool :=
  let word := String.ofList (text.map Char.toLower)
  if trueWords.contains word then .ok true
  else if falseWords.contains word then .ok false
  else misused .key

def scalarOf (tag : Tag) (text : String) : Except LoadFault Scalar :=
  let chars := text.toList
  match tag with
  | .null => .ok .null
  | .bool => .bool <$> boolOf chars
  | .int => .int <$> intOf chars
  | .float => .float <$> floatOf chars
  | .timestamp =>
    timestampOf (if chars.getLast? == some '\n' then chars.dropLast else chars)
  | .binary => .bytes <$> binaryOf chars
  | .str => .ok (.text text)
  | _ => .error .malformed

end ApiSchema.Yaml
