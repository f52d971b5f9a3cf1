import ApiSchema.Number.Binary64

/-!
The shortest decimal text of a binary64 number.

`Decimal.shortest` takes the fewest digits that read back, and of the candidates with that
many digits the nearest. `FloatStyle` holds what a format decides on top of that: where
positional notation ends and how an exponent is written.
-/

namespace ApiSchema

structure Decimal where
  digits : Nat
  exponent : Int
deriving DecidableEq

namespace Decimal

/-- The rationals that round to a positive number `significand * 2 ^ exponent`, over a common
denominator: the number itself and the two ends, which belong to the interval iff `closed`. -/
structure Interval where
  low : Nat
  value : Nat
  high : Nat
  den : Nat
  closed : Bool

def Interval.of (significand : Nat) (exponent : Int) : Interval :=
  let up := if exponent < 0 then 1 else twoTo exponent.natAbs
  let down := if exponent < 0 then twoTo exponent.natAbs else 1
  let narrow := significand = twoTo 52 ∧ -1074 < exponent
  { low := (4 * significand - (if narrow then 1 else 2)) * up
    value := 4 * significand * up
    high := (4 * significand + 2) * up
    den := 4 * down
    closed := significand % 2 = 0 }

def Interval.holds (i : Interval) (d : Decimal) : Bool :=
  let point := if d.exponent < 0 then d.digits * i.den else d.digits * i.den * tenTo d.exponent.natAbs
  let unit := if d.exponent < 0 then tenTo d.exponent.natAbs else 1
  if i.closed then i.low * unit ≤ point && point ≤ i.high * unit
  else i.low * unit < point && point < i.high * unit

def leadingPosition (num den : Nat) : Int :=
  let guess : Int := ((num.log2 : Int) - (den.log2 : Int)) * 30103 / 100000
  let reaches (position : Int) : Bool :=
    if position < 0 then den ≤ num * tenTo position.natAbs else den * tenTo position.natAbs ≤ num
  if reaches (guess + 1) then guess + 1 else if reaches guess then guess else guess - 1

/-- The candidates with `count` digits: the grid points next to the value, the nearer first;
of two equally near the even one. -/
def candidates (i : Interval) (position : Int) (count : Nat) : List Decimal :=
  let exponent := position + 1 - count
  let num := if exponent < 0 then i.value * tenTo exponent.natAbs else i.value
  let den := if exponent < 0 then i.den else i.den * tenTo exponent.natAbs
  let below := num / den
  let rest := 2 * (num % den)
  let lower : Decimal := ⟨below, exponent⟩
  let upper : Decimal := ⟨below + 1, exponent⟩
  if rest < den || (rest = den && below % 2 = 0) then [lower, upper] else [upper, lower]

def search (i : Interval) (position : Int) (count : Nat) : Nat → Decimal
  | 0 => ⟨i.value / i.den, 0⟩
  | fuel + 1 =>
    match (candidates i position count).find? i.holds with
    | some d => d
    | none => search i position (count + 1) fuel

def trim (d : Decimal) : Nat → Decimal
  | 0 => d
  | fuel + 1 =>
    if d.digits % 10 = 0 && d.digits ≠ 0 then trim ⟨d.digits / 10, d.exponent + 1⟩ fuel else d

/-- The shortest decimal that reads back as `significand * 2 ^ exponent`. Seventeen digits
always suffice. -/
def shortest (significand : Nat) (exponent : Int) : Decimal :=
  if significand = 0 then ⟨0, 0⟩
  else
    let i := Interval.of significand exponent
    (search i (leadingPosition i.value i.den) 1 17).trim 17

end Decimal

structure FloatStyle where
  least : Int
  limit : Int
  mark : String
  exponentWidth : Nat

namespace FloatStyle

/-- Positional from a ten-thousandth to below 10^16, else `1e+16` and `1e-05`. -/
def signedExponent : FloatStyle := ⟨-4, 16, "e+", 2⟩

/-- Positional from a hundred-thousandth to below 10^16, else `1e+16` and `1e-6`. -/
def shortExponent : FloatStyle := ⟨-5, 16, "e+", 1⟩

def digitChars (n : Nat) : List Char := Nat.toDigits 10 n

def padLeft (width : Nat) (text : List Char) : List Char :=
  List.replicate (width - text.length) '0' ++ text

def renderDecimal (style : FloatStyle) (d : Decimal) : List Char :=
  let digits := digitChars d.digits
  let position : Int := (digits.length : Int) + d.exponent - 1
  if d.digits = 0 then ['0', '.', '0']
  else if style.least ≤ position ∧ position < style.limit then
    if 0 ≤ d.exponent then digits ++ List.replicate d.exponent.toNat '0' ++ ['.', '0']
    else if 0 ≤ position then
      digits.take (position.toNat + 1) ++ '.' :: digits.drop (position.toNat + 1)
    else ['0', '.'] ++ List.replicate (position.natAbs - 1) '0' ++ digits
  else
    let head := match digits with
      | [only] => [only]
      | first :: rest => first :: '.' :: rest
      | [] => []
    let mark := if position < 0 then ['e', '-'] else style.mark.toList
    head ++ mark ++ padLeft style.exponentWidth (digitChars position.natAbs)

def render? (style : FloatStyle) (x : Binary64) : Option String :=
  match x.shape with
  | .finite negative significand exponent =>
    let body := style.renderDecimal (Decimal.shortest significand exponent)
    some (String.ofList (if negative then '-' :: body else body))
  | _ => none

end FloatStyle

end ApiSchema
