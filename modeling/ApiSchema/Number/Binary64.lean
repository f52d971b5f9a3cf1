/-!
Binary64 numbers, kept as their 64 bits, with every operation in exact integer arithmetic.

A finite number is `significand * 2 ^ exponent` with a sign. `ofRatio` is the one rounding
function: it gives the number nearest to a quotient, a tie going to the even significand, so
reading a decimal and widening an integer are both instances of it.
-/

namespace ApiSchema

def twoTo (n : Nat) : Nat := Nat.pow 2 n

def tenTo (n : Nat) : Nat := Nat.pow 10 n

/-- A binary64 number. Two numbers are equal when their bits are. -/
structure Binary64 where
  bits : UInt64
deriving DecidableEq

inductive Binary64.Shape where
  | finite (negative : Bool) (significand : Nat) (exponent : Int)
  | infinite (negative : Bool)
  | nan
deriving DecidableEq

def roundHalfEven (num den : Nat) : Nat :=
  let quotient := num / den
  let rest := 2 * (num % den)
  if rest < den then quotient
  else if den < rest then quotient + 1
  else quotient + quotient % 2

namespace Binary64

def pack (negative : Bool) (magnitude : Nat) : Binary64 :=
  ⟨UInt64.ofNat ((if negative then twoTo 63 else 0) + magnitude)⟩

def infinity (negative : Bool) : Binary64 := pack negative (2047 * twoTo 52)

def notANumber : Binary64 := pack false (2047 * twoTo 52 + twoTo 51)

def zero (negative : Bool) : Binary64 := pack negative 0

def isNegative (x : Binary64) : Bool := twoTo 63 ≤ x.bits.toNat

def shape (x : Binary64) : Shape :=
  let magnitude : Nat := x.bits.toNat % twoTo 63
  let field : Nat := magnitude / twoTo 52
  let fraction : Nat := magnitude % twoTo 52
  if field = 2047 then
    if fraction = 0 then .infinite x.isNegative else .nan
  else if field = 0 then .finite x.isNegative fraction (-1074)
  else .finite x.isNegative (fraction + twoTo 52) ((field : Int) - 1075)

def isFinite (x : Binary64) : Bool :=
  match x.shape with
  | .finite .. => true
  | _ => false

def isNan (x : Binary64) : Bool := x.shape = .nan

def isZero (x : Binary64) : Bool := x.bits.toNat % twoTo 63 = 0

def scale (num den : Nat) (exponent : Int) : Nat × Nat :=
  if exponent < 0 then (num * twoTo exponent.natAbs, den) else (num, den * twoTo exponent.natAbs)

def exponentOf (num den : Nat) : Int :=
  let guess : Int := (num.log2 : Int) - (den.log2 : Int) - 52
  let scaled := scale num den guess
  let exact := if scaled.1 < scaled.2 * twoTo 52 then guess - 1 else guess
  max exact (-1074)

/-- The number nearest to `num / den`, a tie going to the even significand; infinite when
that lies beyond the largest finite number. -/
def ofRatio (negative : Bool) (num den : Nat) : Binary64 :=
  if num = 0 then zero negative
  else
    let exponent := exponentOf num den
    let scaled := scale num den exponent
    let magnitude := (exponent + 1074).toNat * twoTo 52 + roundHalfEven scaled.1 scaled.2
    if 2047 * twoTo 52 ≤ magnitude then infinity negative else pack negative magnitude

def ofInt (n : Int) : Binary64 := ofRatio (decide (n < 0)) n.natAbs 1

/-- The number nearest to `digits * 10 ^ exponent`. A decimal whose leading digit stands
beyond the range of the format is decided without computing the power. -/
def ofDecimal (negative : Bool) (digits : Nat) (exponent : Int) : Binary64 :=
  let leading : Int := (digits.log2 : Int) * 30103 / 100000 + exponent
  if digits = 0 then zero negative
  else if 400 < leading then infinity negative
  else if leading < -400 then zero negative
  else if exponent < 0 then ofRatio negative digits (tenTo exponent.natAbs)
  else ofRatio negative (digits * tenTo exponent.natAbs) 1

def toInt? (x : Binary64) : Option Int :=
  match x.shape with
  | .finite negative significand exponent =>
    let power := twoTo exponent.natAbs
    if 0 ≤ exponent then some (signed negative (significand * power))
    else if significand % power = 0 then some (signed negative (significand / power))
    else none
  | _ => none
where
  signed (negative : Bool) (n : Nat) : Int := if negative then -(n : Int) else n

def equalsInt (x : Binary64) (n : Int) : Bool := x.toInt? == some n

def same (x y : Binary64) : Bool :=
  !x.isNan && !y.isNan && (x = y || (x.isZero && y.isZero))

end Binary64

end ApiSchema
