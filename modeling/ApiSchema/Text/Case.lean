import ApiSchema.Text.CaseData
import ApiSchema.Text.Table

namespace ApiSchema.Text

def upperCase : Mapping := .parse upperRuns upperSequences

def lowerCase : Mapping := .parse lowerRuns lowerSequences

def titleCase : Mapping := .parse "" titleSequences

def caseIgnorable : Ranges := .parse caseIgnorableRanges

def cased : Ranges := .parse casedRanges

def upperChar (c : Char) : List Char :=
  if c.toNat < 128 then [c.toUpper] else (upperCase.image? c).getD [c]

def lowerChar (c : Char) : List Char :=
  if c.toNat < 128 then [c.toLower] else (lowerCase.image? c).getD [c]

def titleChar (c : Char) : List Char :=
  if c.toNat < 128 then [c.toUpper] else (titleCase.image? c).getD (upperChar c)

def upper (text : List Char) : List Char := text.flatMap upperChar

def nextIsCased (text : List Char) : Bool :=
  match text.dropWhile caseIgnorable.contains with
  | c :: _ => cased.contains c
  | [] => false

/-- Lower case of a text that follows `before`, which stands in reverse. -/
def lowerAfter (before : List Char) : List Char → List Char
  | [] => []
  | c :: rest =>
    let mapped :=
      if c = 'Σ' then (if nextIsCased before && !nextIsCased rest then ['ς'] else ['σ'])
      else lowerChar c
    mapped ++ lowerAfter (c :: before) rest

def lower (text : List Char) : List Char := lowerAfter [] text

def capitalized : List Char → List Char
  | [] => []
  | c :: rest => titleChar c ++ lowerAfter [c] rest

def upperFirst : List Char → List Char
  | [] => []
  | c :: rest => upperChar c ++ rest

def lowerText (text : String) : String := String.ofList (lower text.toList)

def upperText (text : String) : String := String.ofList (upper text.toList)

end ApiSchema.Text
