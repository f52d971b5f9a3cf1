import ApiSchema.Text.DecompositionData
import ApiSchema.Text.Table

namespace ApiSchema.Text

def decompositions : Mapping := .parse decompositionRuns decompositionSequences

def combining : Ranges := .parse combiningRanges

def jamo (code : Nat) : List Char :=
  let index := code - 0xac00
  let trail := index % 28
  [Char.ofNat (0x1100 + index / 588), Char.ofNat (0x1161 + index % 588 / 28)] ++
    (if trail = 0 then [] else [Char.ofNat (0x11a7 + trail)])

def decompose (c : Char) : List Char :=
  let code := c.toNat
  if code < 128 then [c]
  else if 0xac00 ≤ code ∧ code ≤ 0xd7a3 then jamo code
  else (decompositions.image? c).getD [c]

def isMark (c : Char) : Bool := 128 ≤ c.toNat && combining.contains c

def withoutAccents (text : List Char) : List Char :=
  text.flatMap decompose |>.filter (!isMark ·)

end ApiSchema.Text
