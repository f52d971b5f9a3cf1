import ApiSchema.Text.Case
import ApiSchema.Text.Decomposition

/-!
Words of a name, and the identifiers built from them.

A part is a maximal run of ASCII letters and digits of the text without accents. `typeName`
joins capitalised parts; `snakeCase` cuts parts further, at changes of letter case and between
letters and digits.
-/

namespace ApiSchema.Text

def isLetterOrDigit (c : Char) : Bool := c.isAlpha || c.isDigit

def parts (name : List Char) : List (List Char) :=
  splitOnChars (!isLetterOrDigit ·) (withoutAccents name)

def capitalizeAscii : List Char → List Char
  | [] => []
  | c :: rest => c.toUpper :: rest

def guardDigit : List Char → List Char
  | [] => []
  | c :: rest => if c.isDigit then '_' :: c :: rest else c :: rest

/-- One part is kept as it is, several are joined capitalised; `UnnamedType` if there is none. -/
def identifier (name : List Char) : List Char :=
  match parts name with
  | [] => "UnnamedType".toList
  | [part] => guardDigit part
  | several => guardDigit (several.flatMap capitalizeAscii)

def typeName (name : List Char) : List Char := capitalizeAscii (identifier name)

/-- The length of the capitals at the front that form a word of their own: all of them before a
digit or the end, all but the last before a small letter. -/
def capitalsLength (part : List Char) : Nat :=
  let capitals := (part.takeWhile Char.isUpper).length
  match part.drop capitals with
  | [] => capitals
  | c :: _ => if c.isDigit then capitals else capitals - 1

def wordLength : List Char → Nat
  | [] => 0
  | c :: rest =>
    if c.isDigit then 1 + (rest.takeWhile Char.isDigit).length
    else if c.isLower then 1 + (rest.takeWhile Char.isLower).length
    else
      let capitals := capitalsLength (c :: rest)
      if capitals = 0 then 1 + (rest.takeWhile Char.isLower).length else capitals

def cutWords (part : List Char) : List (List Char) :=
  match part with
  | [] => []
  | c :: rest =>
    let length := wordLength (c :: rest) - 1
    (c :: rest.take length) :: cutWords (rest.drop length)
termination_by part.length
decreasing_by simp only [List.length_drop, List.length_cons]; omega

theorem flatten_cutWords (part : List Char) : (cutWords part).flatten = part := by
  fun_induction cutWords part with
  | case1 => rfl
  | case2 c rest length ih => simp [ih]

def snakeCase (name : List Char) : List Char :=
  let words := (parts name).flatMap cutWords |>.map (·.map Char.toLower)
  match guardDigit (List.intercalate ['_'] words) with
  | [] => "unnamed".toList
  | text => text

def operationName (method path : String) : String :=
  lowerText method ++ "_" ++ String.ofList (path.toList.map fun c =>
    if c == '/' || c == '\x7b' || c == '\x7d' then '_' else c)

def occurs (word : List Char) : List Char → Bool
  | [] => word.isEmpty
  | c :: rest => word.isPrefixOf (c :: rest) || occurs word rest

def mentionsStream (text : String) : Bool := occurs "stream".toList (lower text.toList)

def looksStreaming (texts : List (Option String)) : Bool :=
  texts.any fun text => (text.map mentionsStream).getD false

end ApiSchema.Text
