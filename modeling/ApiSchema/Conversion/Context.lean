import ApiSchema.Document.Graph
import ApiSchema.Fault
import ApiSchema.Number.Reading
import ApiSchema.Schema.Basic

/-!
The state of one conversion: the types found so far and the ways in which each was reached.

Ids are given as `type_0`, `type_1`, … in the order of first encounter. A slot is reserved when
its id is given and filled when the definition is done, so the list of types keeps that order.
A caller that gives up half-way leaves what was noted until then.
-/

namespace ApiSchema

structure Context where
  references : List (String × String) := []
  identities : List (Nat × String) := []
  pointers : List (String × String) := []
  warnings : List String := []
  errors : List String := []
  issues : List NodeIssue := []
  slots : List (Option TypeDefinition) := []

abbrev Conversion := ExceptT Fault (StateM Context)

def typeIdOf (n : Nat) : String := "type_" ++ toString n

/-- The number in an id; the front is optional. -/
def slotNumber? (id : String) : Option Int :=
  let chars := id.toList
  let front := "type_".toList
  integerOf? (if front.isPrefixOf chars then chars.drop front.length else chars)

/-- The position that a number names; negative ones count from the end. -/
def slotPosition? (count : Nat) (n : Int) : Option Nat :=
  let position := if n < 0 then n + count else n
  if 0 ≤ position && position < count then some position.toNat else none

namespace Context

def typeCount (c : Context) : Nat := c.slots.length

def allocate (c : Context) : String × Context :=
  (typeIdOf c.typeCount, { c with slots := c.slots ++ [none] })

def slot (c : Context) (id : String) : Except Fault (Nat × Option TypeDefinition) :=
  match slotNumber? id with
  | none => .error (.misuse .value)
  | some n =>
    match slotPosition? c.typeCount n with
    | none => .error (.misuse .index)
    | some position => .ok (position, c.slots[position]?.join)

def fill (c : Context) (id : String) (definition : TypeDefinition) : Except Fault Context :=
  match c.slot id with
  | .error f => .error f
  | .ok (_, some _) => .error (.slot (.filled id))
  | .ok (position, none) =>
    if definition.id = id then .ok { c with slots := c.slots.set position (some definition) }
    else .error (.slot (.mismatch definition.id id))

def pending (c : Context) : List String :=
  c.slots.zipIdx.filterMap fun (s, n) => if s.isNone then some (typeIdOf n) else none

def types (c : Context) : Except Fault (List TypeDefinition) :=
  match c.pending with
  | [] => .ok (c.slots.filterMap id)
  | ids => .error (.slot (.pending ids))

def warn (c : Context) (message : String) : Context :=
  { c with warnings := c.warnings ++ [message] }

def error (c : Context) (message : String) : Context := { c with errors := c.errors ++ [message] }

def record (c : Context) (issue : NodeIssue) : Context :=
  let c := { c with issues := c.issues ++ [issue] }
  match issue.severity with
  | .warning => c.warn issue.message
  | .error => c.error issue.message

end Context

end ApiSchema
