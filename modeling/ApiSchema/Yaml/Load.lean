import ApiSchema.Document.Graph
import ApiSchema.Yaml.Node
import ApiSchema.Yaml.Scalar

/-!
YAML text as a part of a graph.

A node becomes one container however often it is used. Containers are made empty and filled in the
order in which they were met. The entries of a merged mapping come first, so entries of the mapping
itself win.
-/

namespace ApiSchema.Yaml

structure Builder where
  graph : Graph
  nodes : Array Node
  made : List (Nat × Item) := []
  waiting : List (Nat × Item) := []

abbrev Building := ExceptT LoadFault (StateM Builder)

namespace Builder

def malformed {α : Type} : Building α := throw .malformed

def nodeAt (id : Nat) : Building Node := return ((← get).nodes[id]?).getD default

def setNode (id : Nat) (node : Node) : Building Unit :=
  modify fun b => { b with nodes := b.nodes.setIfInBounds id node }

def textWithin : Nat → Nat → Building String
  | 0, _ => malformed
  | fuel + 1, id => do
    match (← nodeAt id).content with
    | .scalar text => return text
    | .sequence _ => malformed
    | .mapping entries =>
      for (key, value) in entries do
        if (← nodeAt key).tag = .value then return ← textWithin fuel value
      malformed

def noteMade (id : Nat) (item : Item) : Building Unit :=
  modify fun b => { b with made := (id, item) :: b.made }

def addEmpty (id : Nat) (cell : Cell) : Building Item := do
  let b ← get
  let (graph, item) := b.graph.add cell
  set { b with graph, made := (id, item) :: b.made, waiting := b.waiting ++ [(id, item)] }
  return item

def make (id : Nat) : Building Item := do
  match (← get).made.lookup id with
  | some item => return item
  | none =>
    let node ← nodeAt id
    match node.tag with
    | .map => addEmpty id (.map [])
    | .seq | .omap | .pairs => addEmpty id (.list [])
    | .set => addEmpty id (.set [])
    | .merge | .value | .other _ => malformed
    | tag =>
      let text ← textWithin ((← get).nodes.size + 1) id
      let item := Item.scalar (← ofExcept (scalarOf tag text))
      noteMade id item
      return item

def entriesAt (id : Nat) : Building (List (Nat × Nat)) := do
  match (← nodeAt id).content with
  | .mapping entries => return entries
  | _ => malformed

def setEntries (id : Nat) (entries : List (Nat × Nat)) : Building Unit := do
  setNode id { ← nodeAt id with content := .mapping entries }

/-- Takes the merge keys out of a mapping and puts the entries of what they name in front. -/
def flatten : Nat → Nat → Nat → List (Nat × Nat) → Building Unit
  | 0, _, _, _ => malformed
  | fuel + 1, id, index, merged => do
    let entries ← entriesAt id
    match entries[index]? with
    | none => if !merged.isEmpty then setEntries id (merged ++ entries)
    | some (key, value) =>
      match (← nodeAt key).tag with
      | .merge =>
        setEntries id (entries.eraseIdx index)
        match (← nodeAt value).content with
        | .mapping _ =>
          flatten fuel value 0 []
          flatten fuel id index (merged ++ (← entriesAt value))
        | .sequence items =>
          let mut parts : List (List (Nat × Nat)) := []
          for item in items do
            let _ ← entriesAt item
            flatten fuel item 0 []
            parts := (← entriesAt item) :: parts
          flatten fuel id index (merged ++ parts.flatten)
        | .scalar _ => malformed
      | .value =>
        setNode key { ← nodeAt key with tag := .str }
        flatten fuel id (index + 1) merged
      | _ => flatten fuel id (index + 1) merged

def mergeFuel : Building Nat := do
  let counts := (← get).nodes.toList.map fun n =>
    match n.content with
    | .mapping entries => entries.length
    | _ => 1
  return 4 * counts.foldl (· + ·) 0 + 1000

def mapEntries (id : Nat) : Building Entries := do
  let _ ← entriesAt id
  flatten (← mergeFuel) id 0 []
  let mut done : Entries := []
  for (key, value) in ← entriesAt id do
    match ← make key with
    | .node _ => malformed
    | .scalar s => done := insertEntry done s (← make value)
  return done

def sequenceAt (id : Nat) : Building (List Nat) := do
  match (← nodeAt id).content with
  | .sequence items => return items
  | _ => malformed

def pairOf (id : Nat) : Building Item := do
  match ← entriesAt id with
  | [(key, value)] =>
    let first ← make key
    let second ← make value
    let b ← get
    let (graph, item) := b.graph.add (.pair first second)
    set { b with graph }
    return item
  | _ => malformed

def fill (id : Nat) (item : Item) : Building Unit := do
  let cell ← match (← nodeAt id).tag with
    | .map => Cell.map <$> mapEntries id
    | .set => (fun entries => Cell.set (entries.map (·.1))) <$> mapEntries id
    | .seq => Cell.list <$> (do (← sequenceAt id).mapM make)
    | _ => Cell.list <$> (do (← sequenceAt id).mapM pairOf)
  match item with
  | .node n => modify fun b => { b with graph := b.graph.set n cell }
  | .scalar _ => return ()

def fillAll : Nat → Building Unit
  | 0 => return ()
  | fuel + 1 => do
    match (← get).waiting with
    | [] => return ()
    | (id, item) :: rest =>
      modify fun b => { b with waiting := rest }
      fill id item
      fillAll fuel

def build (root : Nat) : Building Item := do
  let item ← make root
  fillAll ((← get).nodes.size + 1)
  return item

end Builder

def load (g : Graph) (text : String) (depth : Nat := usualDepth) :
    Except LoadFault (Graph × Item) := do
  let (nodes, root?) ← compose text depth
  match root? with
  | none => return (g, .null)
  | some root =>
    match (Builder.build root).run.run { graph := g, nodes } with
    | (.ok item, b) => return (b.graph, item)
    | (.error fault, _) => throw fault

end ApiSchema.Yaml
