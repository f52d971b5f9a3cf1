import ApiSchema.Value.Basic

/-!
Documents whose parts may be shared or contain themselves.

A graph is an array of containers; an item is a plain value or the number of a container. Two
items with the same number are one part, reached in two ways.
-/

namespace ApiSchema

inductive Item where
  | scalar (s : Scalar)
  | node (id : Nat)
deriving DecidableEq

instance : Inhabited Item := ⟨.scalar .null⟩

namespace Item

abbrev null : Item := .scalar .null
abbrev text (s : String) : Item := .scalar (.text s)

def text? : Item → Option String
  | .scalar (.text s) => some s
  | _ => none

end Item

abbrev Entries := List (Scalar × Item)

inductive Cell where
  | list (items : List Item)
  | map (entries : Entries)
  | set (members : List Scalar)
  | pair (first second : Item)
deriving DecidableEq

instance : Inhabited Cell := ⟨.map []⟩

structure Graph where
  cells : Array Cell

namespace Graph

def empty : Graph := ⟨#[]⟩

def size (g : Graph) : Nat := g.cells.size

def cell? (g : Graph) (id : Nat) : Option Cell := g.cells[id]?

def add (g : Graph) (cell : Cell) : Graph × Item := (⟨g.cells.push cell⟩, .node g.size)

def set (g : Graph) (id : Nat) (cell : Cell) : Graph := ⟨g.cells.setIfInBounds id cell⟩

def of? (g : Graph) : Item → Option Cell
  | .node id => g.cell? id
  | .scalar _ => none

def entries? (g : Graph) (item : Item) : Option Entries :=
  match g.of? item with
  | some (.map entries) => some entries
  | _ => none

def items? (g : Graph) (item : Item) : Option (List Item) :=
  match g.of? item with
  | some (.list items) => some items
  | _ => none

def isMap (g : Graph) (item : Item) : Bool := (g.entries? item).isSome

def truthy (g : Graph) (item : Item) : Bool :=
  match item, g.of? item with
  | .scalar s, _ => s.truthy
  | _, some (.list items) => !items.isEmpty
  | _, some (.map entries) => !entries.isEmpty
  | _, some (.set members) => !members.isEmpty
  | _, _ => true

mutual

def addValue (g : Graph) : Value → Graph × Item
  | .scalar s => (g, .scalar s)
  | .list items =>
    let (g, items) := g.addValues items
    g.add (.list items)
  | .map entries =>
    let (g, entries) := g.addEntries entries
    g.add (.map entries)
  | .set members => g.add (.set members)
  | .pair a b =>
    let (g, a) := g.addValue a
    let (g, b) := g.addValue b
    g.add (.pair a b)
  | .loop _ => (g, .null)

def addValues (g : Graph) : List Value → Graph × List Item
  | [] => (g, [])
  | v :: rest =>
    let (g, item) := g.addValue v
    let (g, items) := g.addValues rest
    (g, item :: items)

def addEntries (g : Graph) : List (Scalar × Value) → Graph × Entries
  | [] => (g, [])
  | (k, v) :: rest =>
    let (g, item) := g.addValue v
    let (g, entries) := g.addEntries rest
    (g, (k, item) :: entries)

end

/-- The value that an item stands for. A container met inside itself becomes a loop; `path` holds
the containers around the item, and `fuel` bounds how many there can be. -/
def valueWithin (g : Graph) (fuel : Nat) (path : List Nat) (item : Item) : Value :=
  match fuel, item with
  | _, .scalar s => .scalar s
  | 0, .node _ => .loop true
  | fuel + 1, .node id =>
    match g.cell? id with
    | none => .null
    | some cell =>
      if path.contains id then .loop (match cell with | .map _ => true | _ => false)
      else
        let part := g.valueWithin fuel (id :: path)
        match cell with
        | .list items => .list (items.map part)
        | .map entries => .map (entries.map fun (k, v) => (k, part v))
        | .set members => .set members
        | .pair a b => .pair (part a) (part b)

def value (g : Graph) (item : Item) : Value := g.valueWithin (g.size + 1) [] item

end Graph

structure Document where
  graph : Graph
  root : Item

def Item.moved (offset size : Nat) : Item → Item
  | .scalar s => .scalar s
  | .node id => if id < size then .node (offset + id) else .null

def Cell.replace (change : Item → Item) : Cell → Cell
  | .list items => .list (items.map change)
  | .map entries => .map (entries.map fun (key, item) => (key, change item))
  | .set members => .set members
  | .pair first second => .pair (change first) (change second)

def Graph.addDocument (g : Graph) (d : Document) : Graph × Item :=
  let moved := Item.moved g.size d.graph.size
  (⟨g.cells ++ d.graph.cells.map (·.replace moved)⟩, moved d.root)

namespace Document

def ofValue (v : Value) : Document :=
  let (graph, root) := Graph.empty.addValue v
  ⟨graph, root⟩

def value (d : Document) : Value := d.graph.value d.root

/-- The value of a document down to containers with `depth` others around them, which are not looked
into. -/
def upTo (d : Document) (depth : Nat) : Value := d.graph.valueWithin depth [] d.root

end Document

end ApiSchema
