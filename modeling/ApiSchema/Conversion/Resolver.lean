import ApiSchema.Conversion.Context

/-!
From a node of a document to the id of its type, at most once per node.

A type is found again by the reference that led to it, by the identity of its node, or, for a
node without identity, by its structural path. A new type is noted under all that apply before
its parts are converted, so a type that refers back to itself finds its own id.
-/

namespace ApiSchema

structure Key where
  node : Option Nat := none
  reference : Option String := none
  pointer : Option String := none

def Key.ofItem (item : Item) : Key :=
  match item with
  | .node id => { node := some id }
  | .scalar _ => {}

def noteFirst {α : Type} [BEq α] (entries : List (α × String)) (key : α) (id : String) :
    List (α × String) :=
  if (entries.lookup key).isSome then entries else entries ++ [(key, id)]

/-- An open object in place of a type that could not be converted. -/
def placeholderType (id name reason : String) : TypeDefinition where
  id := id
  name := name
  metadata := some [("placeholder", .bool true), ("reason", .text reason)]
  shape := .object [] [] (some (.allowed true)) none

namespace Context

/-- By reference, else by identity; by path only without identity. -/
def lookup? (c : Context) (key : Key) : Option String :=
  match key.reference.bind fun r => c.references.lookup r with
  | some id => some id
  | none =>
    match key.node with
    | some node => c.identities.lookup node
    | none => key.pointer.bind fun p => c.pointers.lookup p

def remember (c : Context) (id : String) (key : Key) : Context :=
  let references := match key.reference with
    | some r => noteFirst c.references r id
    | none => c.references
  match key.node, key.pointer with
  | some node, _ => { c with references, identities := noteFirst c.identities node id }
  | none, some p => { c with references, pointers := noteFirst c.pointers p id }
  | none, none => { c with references }

inductive Entry where
  | known (id : String)
  | fresh (id : String)

def enter (c : Context) (key : Key) : Entry × Context :=
  match c.lookup? key with
  | some id => (.known id, c.remember id key)
  | none =>
    let (id, c) := c.allocate
    (.fresh id, c.remember id key)

/-- Puts a finished definition in place. A problem with the node puts a placeholder there; any
other fault is passed on. -/
def leave (c : Context) (id name : String) (built : Except Fault TypeDefinition) :
    Except Fault Unit × Context :=
  let close (c : Context) (definition : TypeDefinition) : Except Fault Unit × Context :=
    match c.fill id definition with
    | .ok c => (.ok (), c)
    | .error f => (.error f, c)
  match built with
  | .ok definition => close c definition
  | .error (.node issue) => close (c.record issue) (placeholderType id name issue.message)
  | .error f => (.error f, c)

end Context

namespace Conversion

def warn (message : String) : Conversion Unit := modify (·.warn message)

def record (issue : NodeIssue) : Conversion Unit := modify (·.record issue)

/-- The id of a type, which is built if it is met for the first time. -/
def resolve (key : Key) (name : String) (build : String → Conversion TypeDefinition) :
    Conversion String := fun c =>
  match c.enter key with
  | (.known id, c) => (.ok id, c)
  | (.fresh id, c) =>
    let (built, c) := (build id).run.run c
    match c.leave id name built with
    | (.ok (), c) => (.ok id, c)
    | (.error f, c) => (.error f, c)

/-- The id of a placeholder. A broken reference has one placeholder, and only its first use is
noted as a problem. -/
def placeholder (name : String) (issue : NodeIssue) (reference pointer : Option String) :
    Conversion String := fun c =>
  let key : Key := { reference, pointer }
  match c.lookup? key with
  | some id => (.ok id, c)
  | none =>
    let (id, c) := (c.record issue).allocate
    let c := c.remember id key
    match c.fill id (placeholderType id name issue.message) with
    | .ok c => (.ok id, c)
    | .error f => (.error f, c)

end Conversion

end ApiSchema
