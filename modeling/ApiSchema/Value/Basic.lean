import ApiSchema.Number.Binary64
import ApiSchema.Value.Time

/-!
Data values: what a document, a default or a free-form field holds.

`same` is equality of values: numbers are compared as numbers whatever their kind, a flag counts
as zero or one, and maps are compared without regard to order.
-/

namespace ApiSchema

/-- The most digits of an integer that is read from decimal text or written out. -/
def digitLimit : Nat := 4300

inductive Scalar where
  | null
  | bool (b : Bool)
  | int (n : Int)
  | float (x : Binary64)
  | text (s : String)
  | bytes (b : List UInt8)
  | date (d : Date)
  | moment (m : Moment)
deriving DecidableEq

namespace Scalar

def integer? : Scalar → Option Int
  | .bool b => some (if b then 1 else 0)
  | .int n => some n
  | _ => none

def same (a b : Scalar) : Bool :=
  match a, b with
  | .float x, .float y => x.same y
  | .float x, other | other, .float x =>
    match other.integer? with
    | some n => x.equalsInt n
    | none => false
  | .moment x, .moment y => x.same y
  | _, _ =>
    match a.integer?, b.integer? with
    | some m, some n => m == n
    | _, _ => a == b

def isText (name : String) : Scalar → Bool
  | .text s => s == name
  | _ => false

def truthy : Scalar → Bool
  | .null => false
  | .bool b => b
  | .int n => n != 0
  | .float x => !x.isZero
  | .text s => !s.isEmpty
  | .bytes b => !b.isEmpty
  | .date _ | .moment _ => true

end Scalar

/-- A value with its parts. `loop` stands where a value is met again inside itself. -/
inductive Value where
  | scalar (s : Scalar)
  | list (items : List Value)
  | map (entries : List (Scalar × Value))
  | set (members : List Scalar)
  | pair (first second : Value)
  | loop (ofMap : Bool)

instance : Inhabited Value := ⟨.scalar .null⟩

namespace Value

abbrev null : Value := .scalar .null
abbrev bool (b : Bool) : Value := .scalar (.bool b)
abbrev int (n : Int) : Value := .scalar (.int n)
abbrev float (x : Binary64) : Value := .scalar (.float x)
abbrev text (s : String) : Value := .scalar (.text s)

def object (fields : List (String × Value)) : Value := .map (fields.map fun (k, v) => (.text k, v))

def strings (items : List String) : Value := .list (items.map .text)

end Value

def lookup? {α : Type} (entries : List (Scalar × α)) (key : Scalar) : Option α :=
  (entries.find? fun entry => entry.1.same key).map Prod.snd

def insertEntry {α : Type} (entries : List (Scalar × α)) (key : Scalar) (value : α) :
    List (Scalar × α) :=
  match entries with
  | [] => [(key, value)]
  | (k, v) :: rest => if k.same key then (k, value) :: rest else (k, v) :: insertEntry rest key value

mutual

def Value.same : Value → Value → Bool
  | .scalar a, .scalar b => a.same b
  | .list xs, .list ys => sameList xs ys
  | .map xs, .map ys => xs.length == ys.length && sameEntries xs ys
  | .set xs, .set ys => xs.length == ys.length && xs.all fun x => ys.any x.same
  | .pair a b, .pair c d => a.same c && b.same d
  | _, _ => false

def sameList : List Value → List Value → Bool
  | [], [] => true
  | x :: xs, y :: ys => x.same y && sameList xs ys
  | _, _ => false

def sameEntries : List (Scalar × Value) → List (Scalar × Value) → Bool
  | [], _ => true
  | (k, v) :: rest, ys =>
    (match lookup? ys k with
     | some w => v.same w
     | none => false) && sameEntries rest ys

end

namespace Value

def truthy : Value → Bool
  | .scalar s => s.truthy
  | .list items => !items.isEmpty
  | .map entries => !entries.isEmpty
  | .set members => !members.isEmpty
  | .pair .. | .loop _ => true

def isNull : Value → Bool
  | .scalar .null => true
  | _ => false

def get? (v : Value) (name : String) : Option Value :=
  match v with
  | .map entries => lookup? entries (.text name)
  | _ => none

end Value

end ApiSchema
