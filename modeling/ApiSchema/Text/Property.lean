import ApiSchema.Text.PropertyData
import ApiSchema.Text.Table

namespace ApiSchema.Text

def isBlank (c : Char) : Bool :=
  c.isWhitespace || isWhiteSpace c || ('\x1c' ≤ c && c ≤ '\x1f')
where
  isWhiteSpace (c : Char) : Bool :=
    ('\t' ≤ c && c ≤ '\r') || c == ' ' || c == '\u0085' || c == '\u00a0' || c == '\u1680' ||
      ('\u2000' ≤ c && c ≤ '\u200a') || c == '\u2028' || c == '\u2029' || c == '\u202f' ||
      c == '\u205f' || c == '\u3000'

def trimBy (drop : Char → Bool) (text : List Char) : List Char :=
  ((text.dropWhile drop).reverse.dropWhile drop).reverse

def trim (text : List Char) : List Char := trimBy isBlank text

def digits : Ranges := .parse digitRanges

def isDigit (c : Char) : Bool := c.isDigit || (127 < c.toNat && digits.contains c)

def decimalFirsts : Array Nat := ((items decimalZeros).map hexNumber).toArray

def decimalValue? (c : Char) : Option Nat :=
  if c.isDigit then some (c.toNat - '0'.toNat)
  else if c.toNat < 128 then none
  else
    match lastAtMost id decimalFirsts c.toNat with
    | some first => if c.toNat < first + 10 then some (c.toNat - first) else none
    | none => none

def unprintable : Ranges := .parse unprintableRanges

def isPrintable (c : Char) : Bool :=
  if c.toNat < 127 then ' ' ≤ c else !unprintable.contains c

def wide : Ranges := .parse wideRanges

def widthless : Ranges := .parse widthlessRanges

def columns (c : Char) : Nat :=
  if c.toNat < 127 then 1
  else if widthless.contains c then 0
  else if wide.contains c then 2
  else 1

end ApiSchema.Text
