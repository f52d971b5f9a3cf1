import ApiSchema.Check.Basic
import ApiSchema.Number.Reading
import ApiSchema.Text.Case

namespace ApiSchema

abbrev Check (α : Type) := Value → Check.Checked α

namespace Check

/-- A text field also takes bytes that are valid UTF-8. -/
def textOfBytes (bytes : List UInt8) : Checked String :=
  match String.fromUTF8? ⟨bytes.toArray⟩ with
  | some s => .ok s
  | none => .fail .textEncoding

def text : Check String
  | .scalar (.text s) => .ok s
  | .scalar (.bytes b) => textOfBytes b
  | _ => .fail .text

def integerOfFloat (x : Binary64) : Checked Int :=
  match x.toInt? with
  | some n => if n.natAbs < twoTo 63 then .ok n else .fail .integerSize
  | none => .fail (if x.isFinite then .integerFraction else .integerFinite)

def integerOfText (s : String) : Checked Int :=
  if digitLimit < (Text.trimBy isWhiteSpace s.toList).length then .fail .integerSize
  else
    match integerField? s.toList with
    | some n => .ok n
    | none => .fail .integerText

def spelled? (bytes : List UInt8) : Option String := (textOfBytes bytes).toOption

def integer : Check Int
  | .scalar (.int n) => .ok n
  | .scalar (.bool b) => .ok (if b then 1 else 0)
  | .scalar (.float x) => integerOfFloat x
  | .scalar (.text s) => integerOfText s
  | .scalar (.bytes b) =>
    match spelled? b with
    | some s => integerOfText s
    | none => .fail .integer
  | _ => .fail .integer

def numberOfText (s : String) : Checked Binary64 :=
  match floatField? s.toList with
  | some x => .ok x
  | none => .fail .numberText

/-- An integer beyond the range of the format is no number field. -/
def numberOfInt (n : Int) : Checked Binary64 :=
  let x := Binary64.ofInt n
  if x.isFinite then .ok x else .fail .number

def number : Check Binary64
  | .scalar (.float x) => .ok x
  | .scalar (.int n) => numberOfInt n
  | .scalar (.bool b) => .ok (.ofInt (if b then 1 else 0))
  | .scalar (.text s) => numberOfText s
  | .scalar (.bytes b) =>
    match spelled? b with
    | some s => numberOfText s
    | none => .fail .number
  | _ => .fail .number

def flagOfInt (n : Int) : Checked Bool :=
  if n = 0 then .ok false else if n = 1 then .ok true else .fail .flagText

def flagOfText (s : String) : Checked Bool :=
  let word := String.ofList (s.toList.map Char.toLower)
  if ["0", "off", "f", "false", "n", "no"].contains word then .ok false
  else if ["1", "on", "t", "true", "y", "yes"].contains word then .ok true
  else .fail .flagText

def flag : Check Bool
  | .scalar (.bool b) => .ok b
  | .scalar (.int n) => flagOfInt n
  | .scalar (.float x) =>
    match integerOfFloat x with
    | .ok n => flagOfInt n
    | .bad _ => .fail .flag
  | .scalar (.text s) => flagOfText s
  | .scalar (.bytes b) =>
    match spelled? b with
    | some s => flagOfText s
    | none => .fail .flag
  | _ => .fail .flag

def anything : Check Value := .ok

def choice {α : Type} (options : List (String × α)) : Check α
  | .scalar (.text s) =>
    match options.find? (·.1 == s) with
    | some (_, a) => .ok a
    | none => .fail (.choice (options.map Prod.fst))
  | _ => .fail (.choice (options.map Prod.fst))

def constant (options : List String) : Check String
  | .scalar (.text s) => if options.contains s then .ok s else .fail (.constant options)
  | _ => .fail (.constant options)

def sequence? : Value → Option (List Value)
  | .list items => some items
  | .set members => some (members.map .scalar)
  | .pair a b => some [a, b]
  | _ => none

def eachFrom {α : Type} (check : Check α) (position : Nat) : List Value → Checked (List α)
  | [] => .ok []
  | v :: rest =>
    (· :: ·) <$> (check v).within (.index position) <*> eachFrom check (position + 1) rest

def list {α : Type} (check : Check α) : Check (List α) := fun v =>
  match sequence? v with
  | some items => eachFrom check 0 items
  | none => .fail .list

def tuple {α : Type} (check : Check α) : Check (List α) := fun v =>
  match sequence? v with
  | some items => eachFrom check 0 items
  | none => .fail .tuple

def Step.ofKey : Scalar → Step
  | .text s => .name s
  | .int n => .index n
  | .bool b => .index (if b then 1 else 0)
  | other => .name other.literal

/-- Every key is a text and every value passes; an issue of a key stands under `[key]`. -/
def entries {α : Type} (check : Check α) : List (Scalar × Value) → Checked (List (String × α))
  | [] => .ok []
  | (key, v) :: rest =>
    let step := Step.ofKey key
    let named := ((text (.scalar key)).within (.name "[key]")).within step
    (fun k a more => (k, a) :: more) <$> named <*> (check v).within step <*> entries check rest

def putNamed {α : Type} (sofar : List (String × α)) (entry : String × α) : List (String × α) :=
  match sofar with
  | [] => [entry]
  | first :: rest => if first.1 == entry.1 then entry :: rest else first :: putNamed rest entry

/-- A map from names. Of keys that read as the same name the last one counts. -/
def map {α : Type} (check : Check α) : Check (List (String × α))
  | .map pairs => (entries check pairs).map fun named => named.foldl putNamed []
  | _ => .fail .map

def nullable {α : Type} (check : Check α) : Check (Option α)
  | .scalar .null => .ok none
  | v => some <$> check v

inductive Fit where
  | read
  | widened
  | own
deriving DecidableEq

structure Member (α : Type) where
  name : String
  fit : Value → Fit
  check : Check α

def readings {α : Type} (members : List (Member α)) (v : Value) : List (Fit × α) :=
  members.filterMap fun m => ((m.check v).toOption).map (m.fit v, ·)

def union {α : Type} (members : List (Member α)) : Check α := fun v =>
  let found := readings members v
  match found.find? (·.1 = .own), found.find? (·.1 = .widened), found.head? with
  | some (_, a), _, _ | none, some (_, a), _ | none, none, some (_, a) => .ok a
  | none, none, none =>
    .bad (members.flatMap fun m =>
      match (m.check v).within (.name m.name) with
      | .ok _ => []
      | .bad issues => issues)

def fitText : Value → Fit
  | .scalar (.text _) => .own
  | _ => .read

def fitInteger : Value → Fit
  | .scalar (.int _) => .own
  | _ => .read

def fitNumber : Value → Fit
  | .scalar (.float _) => .own
  | .scalar (.int _) => .widened
  | _ => .read

def fitFlag : Value → Fit
  | .scalar (.bool _) => .own
  | _ => .read

end Check

end ApiSchema
