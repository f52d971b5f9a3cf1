import ApiSchema.Value.Literal

/-!
Values with a JSON form. Dates become texts, sets and pairs become lists, numbers that are not
finite become null, and keys become names.
-/

namespace ApiSchema

inductive PlainFault where
  | cycle
  | encoding
deriving DecidableEq

def plainBytes (bytes : List UInt8) : Except PlainFault String :=
  match String.fromUTF8? ⟨bytes.toArray⟩ with
  | some s => .ok s
  | none => .error .encoding

def Scalar.plain : Scalar → Except PlainFault Scalar
  | .bytes b => (plainBytes b).map .text
  | .date d => .ok (.text d.iso)
  | .moment m => .ok (.text m.zuluText)
  | .float x => .ok (if x.isFinite then .float x else .null)
  | other => .ok other

def Scalar.plainName : Scalar → Except PlainFault String
  | .text s => if Text.isEncodable s then .ok s else .error .encoding
  | .bool b => .ok (if b then "true" else "false")
  | .int n => if ApiSchema.isShort n then .ok (decimalText n) else .error .encoding
  | .float x => .ok (if x.isFinite then x.literal else "None")
  | .bytes b => plainBytes b
  | .date d => .ok d.iso
  | .moment m => .ok m.zuluText
  | .null => .ok "None"

/-- How many values may be around each other, the innermost included. -/
def plainLevels : Nat := 255

def plainEntries (plain : Value → Except PlainFault Value) (entries : List (Scalar × Value)) :
    Except PlainFault (List (Scalar × Value)) :=
  entries.mapM fun (k, v) => return (.text (← k.plainName), ← plain v)

def Value.plainWithin : Nat → Value → Except PlainFault Value
  | 0, _ => .error .cycle
  | _ + 1, .scalar s => return .scalar (← s.plain)
  | levels + 1, .list items => return .list (← items.mapM (plainWithin levels))
  | levels + 1, .map entries => return .map (← plainEntries (plainWithin levels) entries)
  | levels + 1, .set members =>
    return .list (← members.mapM fun m => plainWithin levels (.scalar m))
  | levels + 1, .pair a b => return .list [← a.plainWithin levels, ← b.plainWithin levels]
  | _ + 1, .loop _ => .error .cycle

def Value.plain (v : Value) : Except PlainFault Value := v.plainWithin plainLevels

end ApiSchema
