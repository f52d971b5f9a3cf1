import ApiSchema.Document.Pointer
import ApiSchema.Json.Reader
import ApiSchema.Source.Files
import ApiSchema.Source.Web
import ApiSchema.Text.Words
import ApiSchema.Yaml.Load

/-!
Documents from memory, files and the web, with references to other documents replaced by what
they name.

A part that is reached in several ways is copied once and shared, so a cycle between documents
becomes a cycle in the graph. References of the first document into itself are left as they are.
-/

namespace ApiSchema

structure Surround where
  files : FileTree
  web : Web := []

inductive DocumentSource where
  | named (text : String)
  | inMemory (content : Value)
  | shared (document : Document)

def DocumentSource.describe : DocumentSource → String
  | named text => text
  | inMemory _ | shared _ => "<in-memory document>"

structure LoaderOptions where
  resolveExternalRefs : Bool := true
  base : Path
  followsRedirects : Bool := true
  /-- How many maps, lists and references may be around each other while a document is copied. -/
  depth : Nat := 980
  jsonDepth : Nat := Json.usualDepth
  yamlDepth : Nat := Yaml.usualDepth

structure Loader where
  graph : Graph := .empty
  documents : List (String × Item) := []
  copies : List (Nat × Item) := []
  targets : List (String × Item) := []

abbrev Loading := ExceptT Fault (StateM Loader)

namespace Loading

def add (cell : Cell) : Loading Item := fun l =>
  let (graph, item) := l.graph.add cell
  (.ok item, { l with graph })

def addValue (v : Value) : Loading Item := fun l =>
  let (graph, item) := l.graph.addValue v
  (.ok item, { l with graph })

def addDocument (d : Document) : Loading Item := fun l =>
  let (graph, item) := l.graph.addDocument d
  (.ok item, { l with graph })

def update (item : Item) (change : Cell → Cell) : Loading Unit := modify fun l =>
  match item with
  | .node id => { l with graph := l.graph.set id (change ((l.graph.cell? id).getD (.map []))) }
  | .scalar _ => l

def noteCopy (id : Nat) (copy : Item) : Loading Unit :=
  modify fun l => { l with copies := (id, copy) :: l.copies }

def noteTarget (reference : String) (copy : Item) : Loading Unit :=
  modify fun l => { l with targets := (reference, copy) :: l.targets }

def readJson (o : LoaderOptions) (label text : String) : Loading Item :=
  match Json.readWithin o.jsonDepth text.toList with
  | .ok v => addValue v
  | .error failure =>
    match failure.cause with
    | .longInteger => throw (.misuse .value)
    | .depth => throw (.misuse .depth)
    | _ => throw (.load label (some (.json (failure.message text.toList))))

def readYaml (o : LoaderOptions) (label text : String) : Loading Item := fun l =>
  match Yaml.load l.graph text o.yamlDepth with
  | .ok (graph, item) => (.ok item, { l with graph })
  | .error .malformed => (.error (.load label (some .yaml)), l)
  | .error (.misuse m) => (.error (.misuse m), l)

def endsWith (text ending : String) : Bool := ending.toList.isSuffixOf text.toList

def readPage (s : Surround) (o : LoaderOptions) (address : String) : Loading Item := do
  match s.web.get o.followsRedirects address with
  | .error (.net fault) => throw (.load address (some (.net fault)))
  | .error (.misuse misuse) => throw (.misuse misuse)
  | .ok page =>
    if Text.occurs "yaml".toList page.contentType.toList ||
        endsWith address ".yaml" || endsWith address ".yml" then
      readYaml o address page.body
    else readJson o address page.body

def readFile (s : Surround) (o : LoaderOptions) (location label : String) : Loading Item := do
  let path := Path.ofString location
  if let some wording := s.files.refuses path then throw (.file (.refused wording path.toString))
  if !s.files.exists? path then throw (.load label (some (.missing path.toString)))
  match s.files.read path with
  | .error denial => throw (.load label (some (.file (denial.at path.toString))))
  | .ok bytes =>
    let text ← ofExcept (textOf bytes)
    let suffix := Text.lowerText path.suffix
    if suffix == ".yaml" || suffix == ".yml" then readYaml o label text else readJson o label text

def fetch (s : Surround) (o : LoaderOptions) (location label : String) : Loading Item := do
  match (← get).documents.lookup location with
  | some item => return item
  | none =>
    let item ← if Address.isWeb location then readPage s o location else readFile s o location label
    modify fun l => { l with documents := l.documents ++ [(location, item)] }
    return item

end Loading

open Loading

def locate (o : LoaderOptions) (name : String) (base : Option String) : Except Fault String :=
  let onDisk (directory : Path) : String := (directory.join (Path.ofString name)).toString
  if Address.isWeb name then .ok name
  else match base with
    | none => .ok (onDisk o.base)
    | some base =>
      if Address.isWeb base then
        match Address.join? base name with
        | some address => .ok address
        | none => .error (.misuse .value)
      else .ok (onDisk (Path.ofString base).parent)

def reference? (isRoot : Bool) (entries : Entries) : Option String :=
  match (lookup? entries (.text "$ref")).bind Item.text? with
  | some r => if isRoot && r.toList.head? == some '#' then none else some r
  | none => none

def aim (o : LoaderOptions) (reference base : String) : Except Fault (String × String) := do
  let (file, pointer) := Text.cutAt '#' reference.toList
  let location ← if file.isEmpty then .ok base else locate o (String.ofList file) (some base)
  return (location, String.ofList pointer)

def targetKey (location pointer : String) : String := location ++ "#" ++ pointer

def seek (s : Surround) (o : LoaderOptions) (reference location pointer : String) :
    Loading Item := do
  let document ← fetch s o location location
  match Pointer.resolve? (← get).graph document pointer with
  | none => throw (.load reference (some (.pointer pointer)))
  | some target => return target

def openTarget (key : String) : Loading Item := do
  let placeholder ← add (.map [])
  noteTarget key placeholder
  return placeholder

/-- Gives a placeholder the entries of the copy; a copy that is no map is noted in its place. -/
def closeTarget (key : String) (placeholder copied : Item) : Loading Item := do
  match (← get).graph.entries? copied with
  | some entries =>
    update placeholder fun _ => .map entries
    return placeholder
  | none =>
    noteTarget key copied
    return copied

/-- Puts a copy of what a reference names in its place. The copy of a map is noted before its
parts are copied, so that a cycle closes on it. -/
def inlineTarget (s : Surround) (o : LoaderOptions) (copy : String → Item → Loading Item)
    (reference base : String) : Loading Item := do
  let (location, pointer) ← ofExcept (aim o reference base)
  let key := targetKey location pointer
  match (← get).targets.lookup key with
  | some item => return item
  | none =>
    let target ← seek s o reference location pointer
    if (← get).graph.isMap target then
      let placeholder ← openTarget key
      let copied ← copy location target
      closeTarget key placeholder copied
    else
      let copied ← copy location target
      noteTarget key copied
      return copied

def withPart (key : Option Scalar) (part : Item) : Cell → Cell
  | .map entries => .map (entries ++ (key.map (·, part)).toList)
  | .list items => .list (items ++ [part])
  | cell => cell

def openCopy (id : Nat) (empty : Cell) : Loading Item := do
  let copied ← add empty
  noteCopy id copied
  return copied

def copyParts (copy : Item → Loading Item) (copied : Item) (parts : List (Option Scalar × Item)) :
    Loading Unit :=
  parts.forM fun (key, part) => do
    let part ← copy part
    update copied (withPart key part)

def copyContainer (copy : Item → Loading Item) (id : Nat) (empty : Cell)
    (parts : List (Option Scalar × Item)) : Loading Item := do
  match (← get).copies.lookup id with
  | some copied => return copied
  | none =>
    let copied ← openCopy id empty
    copyParts copy copied parts
    return copied

def bundle (s : Surround) (o : LoaderOptions) : Nat → Bool → String → Item → Loading Item
  | 0, _, _, _ => throw (.misuse .depth)
  | fuel + 1, isRoot, location, item => do
    match item, (← get).graph.of? item with
    | .node id, some (.map entries) =>
      match reference? isRoot entries with
      | some reference => inlineTarget s o (bundle s o fuel false) reference location
      | none =>
        copyContainer (bundle s o fuel isRoot location) id (.map [])
          (entries.map fun (key, part) => (some key, part))
    | .node id, some (.list items) =>
      copyContainer (bundle s o fuel isRoot location) id (.list []) (items.map (none, ·))
    | _, _ => return item

def LoaderOptions.inMemory (o : LoaderOptions) : String := (o.base.child "__document__").toString

def openDocument (s : Surround) (o : LoaderOptions) (source : DocumentSource) :
    Loading (String × Item) := do
  match source with
  | .inMemory content => return (o.inMemory, ← addValue content)
  | .shared document => return (o.inMemory, ← addDocument document)
  | .named text =>
    let location ← ofExcept (locate o text none)
    let item ← fetch s o location (if text.isEmpty then location else text)
    return (location, item)

def loadDocument (s : Surround) (o : LoaderOptions) (source : DocumentSource) : Loading Document := do
  let (location, content) ← openDocument s o source
  if !(← get).graph.isMap content then throw (.load source.describe (some .notMapping))
  if !o.resolveExternalRefs then return ⟨(← get).graph, content⟩
  modify fun l => { l with copies := [], targets := [] }
  let root ← bundle s o o.depth true location content
  return ⟨(← get).graph, root⟩

end ApiSchema
