import ApiSchema.Value.Literal

namespace ApiSchema.Json

structure Style where
  floats : FloatStyle
  nan : String
  infinity : String
  ascii : Bool
  indent : Option Nat
  comma : String
  colon : String

namespace Style

/-- The catalog's JSON: indented by two, all characters ASCII, words for infinities. -/
def catalog : Style := ⟨.signedExponent, "NaN", "Infinity", true, some 2, ", ", ": "⟩

/-- The canonical schema's JSON: `null` for what is not finite, characters as they are. -/
def canonical (indent : Option Nat) : Style :=
  ⟨.shortExponent, "null", "null", false, indent, ",", if indent.isSome then ": " else ":"⟩

def line : Style := ⟨.signedExponent, "NaN", "Infinity", true, none, ",", ":"⟩

end Style

def unitEscape (n : Nat) : List Char := '\\' :: 'u' :: Text.hexDigits 4 n

def unitEscapes (c : Char) : List Char :=
  let code := Text.codeOf c
  if code < 0x10000 then unitEscape code
  else
    let above := code - 0x10000
    unitEscape (0xd800 + above / 0x400) ++ unitEscape (0xdc00 + above % 0x400)

def escapeChar (ascii : Bool) (c : Char) : List Char :=
  if c == '"' then ['\\', '"']
  else if c == '\\' then ['\\', '\\']
  else if c == '\n' then ['\\', 'n']
  else if c == '\r' then ['\\', 'r']
  else if c == '\t' then ['\\', 't']
  else if c == '\x08' then ['\\', 'b']
  else if c == '\x0c' then ['\\', 'f']
  else if c.toNat < 0x20 || (ascii && 0x7f ≤ c.toNat) then unitEscapes c
  else [c]

def string (ascii : Bool) (s : String) : List Char :=
  '"' :: s.toList.flatMap (escapeChar ascii) ++ ['"']

def Style.float (style : Style) (x : Binary64) : List Char :=
  match style.floats.render? x with
  | some text => text.toList
  | none =>
    if x.isNan then style.nan.toList
    else if x.isNegative && style.infinity != "null" then '-' :: style.infinity.toList
    else style.infinity.toList

def Style.scalar (style : Style) : Scalar → List Char
  | .null => "null".toList
  | .bool b => (if b then "true" else "false").toList
  | .int n => (decimalText n).toList
  | .float x => style.float x
  | .text s => string style.ascii s
  | other => string style.ascii other.display

/-- A name in front of its value; other keys are written as their text. -/
def Style.name (style : Style) : Scalar → List Char
  | .text s => string style.ascii s
  | other => string style.ascii other.display

def Style.break (style : Style) (depth : Nat) : List Char :=
  match style.indent with
  | some width => '\n' :: List.replicate (width * depth) ' '
  | none => []

def Style.separator (style : Style) (depth : Nat) : List Char :=
  match style.indent with
  | some _ => ',' :: style.break depth
  | none => style.comma.toList

mutual

def Style.write (style : Style) (depth : Nat) : Value → List Char
  | .scalar s => style.scalar s
  | .list [] => ['[', ']']
  | .list (v :: rest) =>
    '[' :: style.break (depth + 1) ++ style.write (depth + 1) v ++
      style.writeRest (depth + 1) rest ++ style.break depth ++ [']']
  | .map [] => ['\x7b', '\x7d']
  | .map ((k, v) :: rest) =>
    '\x7b' :: style.break (depth + 1) ++ style.name k ++ style.colon.toList ++
      style.write (depth + 1) v ++ style.writeMembers (depth + 1) rest ++ style.break depth ++ ['\x7d']
  | .set members => string style.ascii (Value.set members).literal
  | .pair a b => string style.ascii (Value.pair a b).literal
  | .loop _ => "null".toList

def Style.writeRest (style : Style) (depth : Nat) : List Value → List Char
  | [] => []
  | v :: rest => style.separator depth ++ style.write depth v ++ style.writeRest depth rest

def Style.writeMembers (style : Style) (depth : Nat) : List (Scalar × Value) → List Char
  | [] => []
  | (k, v) :: rest =>
    style.separator depth ++ style.name k ++ style.colon.toList ++ style.write depth v ++
      style.writeMembers depth rest

end

def Style.render (style : Style) (v : Value) : String := String.ofList (style.write 0 v)

end ApiSchema.Json
