import ApiSchema.Number.Shortest
import ApiSchema.Text.Property
import ApiSchema.Value.Basic

namespace ApiSchema

namespace Text

def hexDigits (width n : Nat) : List Char :=
  let digits := Nat.toDigits 16 n
  List.replicate (width - digits.length) '0' ++ digits

def quoteFor (text : List Char) : Char :=
  if text.contains '\'' && !text.contains '"' then '"' else '\''

def escapeChar (quote c : Char) : List Char :=
  if c == quote || c == '\\' then ['\\', c]
  else if c == '\n' then ['\\', 'n']
  else if c == '\r' then ['\\', 'r']
  else if c == '\t' then ['\\', 't']
  else if isPrintable c then [c]
  else if isSurrogate c then '\\' :: 'u' :: hexDigits 4 (codeOf c)
  else if c.toNat < 0x100 then '\\' :: 'x' :: hexDigits 2 c.toNat
  else if c.toNat < 0x10000 then '\\' :: 'u' :: hexDigits 4 c.toNat
  else '\\' :: 'U' :: hexDigits 8 c.toNat

def quoted (text : String) : String :=
  let chars := text.toList
  let quote := quoteFor chars
  String.ofList (quote :: chars.flatMap (escapeChar quote) ++ [quote])

def quotedBytes (bytes : List UInt8) : String :=
  let chars := bytes.map fun b => Char.ofNat b.toNat
  let quote := quoteFor chars
  let escape (c : Char) : List Char :=
    if 127 ≤ c.toNat then '\\' :: 'x' :: hexDigits 2 c.toNat else escapeChar quote c
  String.ofList ('b' :: quote :: chars.flatMap escape ++ [quote])

end Text

def Binary64.literal (x : Binary64) : String :=
  match FloatStyle.signedExponent.render? x with
  | some text => text
  | none => if x.isNan then "nan" else if x.isNegative then "-inf" else "inf"

def decimalText (n : Int) : String :=
  let digits := String.ofList (Nat.toDigits 10 n.natAbs)
  if n < 0 then "-" ++ digits else digits

def isShort (n : Int) : Bool := (Nat.toDigits 10 n.natAbs).length ≤ digitLimit

namespace Moment

def offsetLiteral (seconds : Int) : String :=
  let days := seconds.fdiv 86400
  let rest := seconds - days * 86400
  let parts := (if days = 0 then [] else ["days=" ++ decimalText days]) ++
    (if rest = 0 then [] else ["seconds=" ++ decimalText rest])
  "datetime.timezone" ++
    (if seconds = 0 then ".utc" else "(datetime.timedelta(" ++ ", ".intercalate parts ++ "))")

def literal (m : Moment) : String :=
  let last := if m.micro ≠ 0 then [m.second, m.micro] else if m.second ≠ 0 then [m.second] else []
  let fields := [m.date.year, m.date.month, m.date.day, m.hour, m.minute] ++ last
  let zone := match m.offset with
    | some s => ["tzinfo=" ++ offsetLiteral s]
    | none => []
  "datetime.datetime(" ++ ", ".intercalate (fields.map (fun (n : Nat) => decimalText n) ++ zone) ++ ")"

end Moment

namespace Scalar

def literal : Scalar → String
  | .null => "None"
  | .bool b => if b then "True" else "False"
  | .int n => decimalText n
  | .float x => x.literal
  | .text s => Text.quoted s
  | .bytes b => Text.quotedBytes b
  | .date d =>
    let parts := [d.year, d.month, d.day].map fun (n : Nat) => decimalText n
    "datetime.date(" ++ ", ".intercalate parts ++ ")"
  | .moment m => m.literal

def display : Scalar → String
  | .text s => s
  | .date d => d.iso
  | .moment m => m.numericText " "
  | other => other.literal

def isShort : Scalar → Bool
  | .int n => ApiSchema.isShort n
  | _ => true

end Scalar

mutual

def Value.literal : Value → String
  | .scalar s => s.literal
  | .list items => "[" ++ ", ".intercalate (literalList items) ++ "]"
  | .map entries => "\x7b" ++ ", ".intercalate (literalEntries entries) ++ "\x7d"
  | .set [] => "set()"
  | .set members => "\x7b" ++ ", ".intercalate (members.map Scalar.literal) ++ "\x7d"
  | .pair a b => "(" ++ a.literal ++ ", " ++ b.literal ++ ")"
  | .loop ofMap => if ofMap then "\x7b...\x7d" else "[...]"

def literalList : List Value → List String
  | [] => []
  | v :: rest => v.literal :: literalList rest

def literalEntries : List (Scalar × Value) → List String
  | [] => []
  | (k, v) :: rest => (k.literal ++ ": " ++ v.literal) :: literalEntries rest

end

def Value.display : Value → String
  | .scalar s => s.display
  | other => other.literal

mutual

def Value.isShort : Value → Bool
  | .scalar s => s.isShort
  | .list items => allShort items
  | .map entries => entriesShort entries
  | .set members => members.all Scalar.isShort
  | .pair a b => a.isShort && b.isShort
  | .loop _ => true

def allShort : List Value → Bool
  | [] => true
  | v :: rest => v.isShort && allShort rest

def entriesShort : List (Scalar × Value) → Bool
  | [] => true
  | (k, v) :: rest => k.isShort && v.isShort && entriesShort rest

end

end ApiSchema
