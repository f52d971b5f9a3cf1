import ApiSchema.Number.Binary64
import ApiSchema.Text.Property

namespace ApiSchema

def naturalOfDigits (digits : List Nat) : Nat := digits.foldl (fun n d => 10 * n + d) 0

def groupedDigits? (digit? : Char → Option Nat) : List Char → Option (List Nat)
  | [] => none
  | [c] => (digit? c).map ([·])
  | c :: '_' :: rest => do return (← digit? c) :: (← groupedDigits? digit? rest)
  | c :: rest => do return (← digit? c) :: (← groupedDigits? digit? rest)

def splitSign : List Char → Bool × List Char
  | '-' :: rest => (true, rest)
  | '+' :: rest => (false, rest)
  | text => (false, text)

def signed (negative : Bool) (n : Nat) : Int := if negative then -(n : Int) else n

/-- An integer in decimal digits of any script, with blanks around and underscores between. -/
def integerOf? (text : List Char) : Option Int :=
  let (negative, digits) := splitSign (Text.trim text)
  (groupedDigits? Text.decimalValue? digits).map fun ds => signed negative (naturalOfDigits ds)

def asciiDigit? (c : Char) : Option Nat :=
  if c.isDigit then some (c.toNat - '0'.toNat) else none

def isWhiteSpace (c : Char) : Bool := Text.isBlank.isWhiteSpace c

/-- As `integerOf?` in ASCII digits, and a fraction of zeros is allowed. -/
def integerField? (text : List Char) : Option Int :=
  let (negative, body) := splitSign (Text.trimBy isWhiteSpace text)
  let (whole, fraction) := (body.takeWhile (· != '.'), body.dropWhile (· != '.'))
  if (fraction.drop 1).all (· == '0') then
    (groupedDigits? asciiDigit? whole).map fun ds => signed negative (naturalOfDigits ds)
  else none

def decimalOf? (negative : Bool) (text : List Char) : Option Binary64 :=
  let isMark (c : Char) : Bool := c == 'e' || c == 'E'
  let mantissa := text.takeWhile (!isMark ·)
  let whole := mantissa.takeWhile (· != '.')
  let fraction := (mantissa.dropWhile (· != '.')).drop 1
  let digits := whole ++ fraction
  let power? : Option Int :=
    match text.dropWhile (!isMark ·) with
    | [] => some 0
    | _ :: exponent =>
      let (down, ds) := splitSign exponent
      if ds.isEmpty || !ds.all Char.isDigit then none
      else some (signed down (naturalOfDigits (ds.filterMap asciiDigit?)))
  if digits.isEmpty || !digits.all Char.isDigit then none
  else power?.map fun power =>
    .ofDecimal negative (naturalOfDigits (digits.filterMap asciiDigit?)) (power - fraction.length)

def floatOf? (text : List Char) : Option Binary64 :=
  let (negative, body) := splitSign text
  let word := String.ofList (body.map Char.toLower)
  if word == "inf" || word == "infinity" then some (.infinity negative)
  else if word == "nan" then some .notANumber
  else decimalOf? negative body

def withoutUnderscores? (text : List Char) : Option (List Char) :=
  let doubled := (text.zip (text.drop 1)).any fun (a, b) => a == '_' && b == '_'
  if text.head? == some '_' || text.getLast? == some '_' || doubled then none
  else some (text.filter (· != '_'))

def floatField? (text : List Char) : Option Binary64 :=
  let body := Text.trimBy isWhiteSpace text
  match floatOf? body with
  | some x => some x
  | none => (withoutUnderscores? body).bind floatOf?

end ApiSchema
