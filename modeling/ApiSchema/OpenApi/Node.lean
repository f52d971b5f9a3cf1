import ApiSchema.Check.Record
import ApiSchema.Conversion.Resolver
import ApiSchema.Document.Pointer
import ApiSchema.Schema.Decode
import ApiSchema.Schema.Object

/-!
Parts of an OpenAPI document as a conversion asks for them.

A document is not checked deeply before it is converted. A part of the wrong kind is noticed where
it is used, and ends the conversion: asking for fields needs a map, and going through items needs
a container or a text.
-/

namespace ApiSchema.OpenApi

structure Scope where
  document : Document
  trail : List String := []

def Scope.graph (s : Scope) : Graph := s.document.graph

def misuse {α : Type} (m : Misuse) : Except Fault α := .error (.misuse m)

def fieldOf (entries : Entries) (name : String) : Item := (lookup? entries (.text name)).getD .null

def hasField (entries : Entries) (name : String) : Bool := (lookup? entries (.text name)).isSome

def entriesOf (g : Graph) (item : Item) : Except Fault Entries :=
  match g.entries? item with
  | some entries => .ok entries
  | none => misuse .part

def entriesOrNone (g : Graph) (item : Item) : Except Fault Entries :=
  if g.truthy item then entriesOf g item else .ok []

/-- The items of a container, the keys of a map, or the characters of a text. -/
def itemsOf (g : Graph) (item : Item) : Except Fault (List Item) :=
  match item, g.of? item with
  | _, some (.list items) => .ok items
  | _, some (.map entries) => .ok (entries.map fun (k, _) => .scalar k)
  | _, some (.set members) => .ok (members.map .scalar)
  | _, some (.pair a b) => .ok [a, b]
  | .scalar (.text s), _ => .ok (s.toList.map fun c => .text (String.singleton c))
  | .scalar (.bytes b), _ => .ok (b.map fun n => .scalar (.int n.toNat))
  | _, _ => misuse .kind

def itemsOrNone (g : Graph) (item : Item) : Except Fault (List Item) :=
  if g.truthy item then itemsOf g item else .ok []

def isText (item : Item) (s : String) : Bool := item.text? == some s

def isNull (item : Item) : Bool := item == .null

def shown (g : Graph) (item : Item) : Except Fault String := (g.value item).shown

def warnOf (message : Except Fault String) : Conversion Unit := do
  Conversion.warn (← ofExcept message)

def noteIssue (issue : Except Fault NodeIssue) : Conversion Unit := do
  Conversion.record (← ofExcept issue)

def brokenReference (g : Graph) (reference : Item) (reason : String) : Except Fault NodeIssue :=
  return .unresolved (← shown g reference) (some reason)

def kindName (g : Graph) (item : Item) : String :=
  match item, g.of? item with
  | _, some (.list _) => "list"
  | _, some (.map _) => "dict"
  | _, some (.set _) => "set"
  | _, some (.pair ..) => "tuple"
  | .scalar .null, _ | .node _, none => "NoneType"
  | .scalar (.bool _), _ => "bool"
  | .scalar (.int _), _ => "int"
  | .scalar (.float _), _ => "float"
  | .scalar (.text _), _ => "str"
  | .scalar (.bytes _), _ => "bytes"
  | .scalar (.date _), _ => "date"
  | .scalar (.moment _), _ => "datetime"

def referenceOf? (g : Graph) (item : Item) : Option String :=
  (g.entries? item).bind fun entries => (fieldOf entries "$ref").text?

def localTarget? (d : Document) (reference : String) : Option Item :=
  match reference.toList with
  | '#' :: pointer => Pointer.resolve? d.graph d.root (String.ofList pointer)
  | _ => none

/-- Follows references into the document; null where one leads nowhere or in a circle. -/
def followWithin (d : Document) (fuel : Nat) (seen : List String) (item : Item) : Item :=
  match fuel, referenceOf? d.graph item with
  | _, none => item
  | 0, some _ => .null
  | fuel + 1, some reference =>
    if seen.contains reference then .null
    else
      match localTarget? d reference with
      | some target => followWithin d fuel (reference :: seen) target
      | none => .null

def target (d : Document) (item : Item) : Item := followWithin d (d.graph.size + 1) [] item

def component? (d : Document) (item : Item) (kind : String) : Conversion (Option Entries) := do
  match d.graph.entries? (target d item) with
  | some entries => return some entries
  | none =>
    let reference := match d.graph.entries? item with
      | some entries => fieldOf entries "$ref"
      | none => .null
    noteIssue (brokenReference d.graph reference (kind ++ " not found"))
    return none

def checked {α : Type} (title : String) (check : Check α) (fields : List (String × Value)) :
    Except Fault α :=
  ((check (.object fields)).orReject title).mapError .rejected

def declaredDefault (g : Graph) (entries : Entries) : Option Value :=
  (lookup? entries (.text "default")).map g.value

def admitsNull (g : Graph) (item : Item) : Bool :=
  match g.entries? item with
  | none => false
  | some entries =>
    fieldOf entries "nullable" == .scalar (.bool true) ||
      ((g.items? (fieldOf entries "type")).getD []).any (isText · "null")

/-- The declared type of a schema node: of several the first that is not null. -/
def declaredType (g : Graph) (entries : Entries) : Item :=
  let declared := fieldOf entries "type"
  match g.items? declared with
  | none => declared
  | some types =>
    match types.find? (!isText · "null") with
    | some first => first
    | none => if types.isEmpty then .null else .text "null"

def isKey (g : Graph) (item : Item) : Bool := (g.value item).isKey

end ApiSchema.OpenApi
