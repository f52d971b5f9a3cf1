import ApiSchema.OpenApi.Node

/-!
Schema nodes as canonical types.

One node can look like several kinds at once; the first of these decides: fixed values make an
enum, fields or composition an object, items an array, alternatives a union, and anything else is
a primitive. The parts of a type are converted through `Convert`, the conversion of any node.
-/

namespace ApiSchema.OpenApi

/-- What a type is wanted for: a node, with the name for a new type and the ways in which it may
be found again, or the node behind a reference. -/
inductive Ask where
  | node (item : Item) (name : String) (reference pointer : Option String)
  | reference (text : String)

/-- Turns a node into the id of its type. The first argument holds the references being followed. -/
abbrev Convert := List String → Ask → Conversion String

def typeRefOf (s : Scope) (convert : Convert) (node : Item) (name : String)
    (pointer : Option String := none) : Conversion TypeRef := do
  let g := s.graph
  let nullable := admitsNull g node || admitsNull g (target s.document node)
  return ⟨← convert s.trail (.node node name none pointer), nullable⟩

def notes (g : Graph) (entries : Entries) : List (String × Value) :=
  [("description", g.value (fieldOf entries "description")),
    ("deprecated", g.value (fieldOf entries "deprecated"))]

def keywords : List (String × String) :=
  [("minLength", "min_length"), ("maxLength", "max_length"), ("pattern", "pattern"),
    ("format", "format"), ("minimum", "minimum"), ("maximum", "maximum"),
    ("exclusiveMinimum", "exclusive_minimum"), ("exclusiveMaximum", "exclusive_maximum"),
    ("multipleOf", "multiple_of")]

def soundConstraint (field : String) (v : Value) : Bool :=
  match constraints (.object [(field, v)]) with
  | .ok _ => true
  | .bad _ => false

/-- The keywords of a node with sound values; the others are warned of. -/
def soundKeywords (g : Graph) (entries : Entries) (name : String) :
    List (String × String) → Conversion (List (String × Value))
  | [] => return []
  | (keyword, field) :: rest => do
    let v := g.value (fieldOf entries keyword)
    if v.isNull then soundKeywords g entries name rest
    else if soundConstraint field v then
      return (field, v) :: (← soundKeywords g entries name rest)
    else
      warnOf (do return "Ignoring invalid '" ++ keyword ++ "' on '" ++ name ++ "': " ++ (← v.spelled))
      soundKeywords g entries name rest

def limitsOf (fields : List (String × Value)) : Except Fault (Option Constraints) :=
  match fields with
  | [] => .ok none
  | fields => (checked "PrimitiveConstraints" constraints fields).map some

def constraintsOf (g : Graph) (entries : Entries) (name : String) :
    Conversion (Option Constraints) := do
  let fields ← soundKeywords g entries name keywords
  ofExcept (limitsOf fields)

def discriminatorOf (g : Graph) (entries : Entries) (name : String) : Conversion Entries := do
  let raw := fieldOf entries "discriminator"
  match g.entries? raw with
  | some fields => return fields
  | none =>
    if !isNull raw then
      warnOf (do
        return "Ignoring malformed discriminator on '" ++ name ++ "': " ++ (← (g.value raw).spelled))
    return []

/-- A fixed value of an enum. Null is no value, and what is no number becomes text. -/
def enumLiteral? (g : Graph) (item : Item) : Option Literal :=
  match item with
  | .scalar .null => none
  | .scalar (.bool b) => some (.text (if b then "true" else "false"))
  | .scalar (.int n) => some (.int n)
  | .scalar (.float x) => some (.float x)
  | other => some (.text (g.value other).display)

def enumValueOf (l : Literal) : EnumValue := { value := l, name := l.toScalar.display }

/-- The fixed values of an enum. Each is printed, as its name or as the value itself. -/
def enumValuesOf (g : Graph) (items : List Item) : Except Fault (List EnumValue) :=
  printed (items.all fun item => (g.value item).isShort)
    ((items.filterMap (enumLiteral? g)).map enumValueOf)

def enumKindOf (values : List EnumValue) : EnumKind :=
  match values with
  | [] => .string
  | v :: _ => if v.value.isText then .string else .number

def buildEnum (s : Scope) (id : String) (entries : Entries) (name : String) :
    Conversion TypeDefinition := do
  let g := s.graph
  let raw ← match lookup? entries (.text "enum") with
    | some items => ofExcept (itemsOrNone g items)
    | none => pure [fieldOf entries "const"]
  let values ← ofExcept (enumValuesOf g raw)
  let t ← ofExcept (checked "EnumType" enumType
    ([("id", .text id), ("name", .text name)] ++ notes g entries))
  return { t with shape := .enum values (enumKindOf values) }

structure Gathered where
  properties : List (Scalar × Property) := []
  required : List Value := []
  seen : List Nat := []

def ownerFront (owner : String) : String := String.ofList (owner.toList.takeWhile (· != '.'))

def propertyOf (s : Scope) (convert : Convert) (owner : String) (name : Scalar) (node : Item) :
    Conversion Property := do
  let g := s.graph
  let entries := (g.entries? node).getD []
  let shownName ← ofExcept name.shown
  let place := owner ++ "." ++ shownName
  let type ← typeRefOf s convert node (ownerFront owner ++ "_" ++ shownName) (some place)
  let limits ← constraintsOf g entries place
  let p ← ofExcept (checked "PropertyDefinition" property
    ([("name", .scalar name), ("type", type.dump), ("required", .bool false)] ++ notes g entries))
  return { p with constraints := limits, default := declaredDefault g entries }

/-- The properties that a node declares itself. They win over gathered ones of the same name. -/
def ownProperties (s : Scope) (convert : Convert) (owner : String) (sofar : Gathered) :
    Entries → Conversion Gathered
  | [] => return sofar
  | (name, node) :: rest => do
    let p ← propertyOf s convert owner name node
    ownProperties s convert owner
      { sofar with properties := insertEntry sofar.properties name p } rest

def addRequired (g : Graph) (sofar : Gathered) (item : Item) : Gathered :=
  { sofar with required := addDistinct sofar.required (g.value item) }

def memberOwner (owner composition : String) (index : Nat) (member : Entries) :
    Except Fault String :=
  match lookup? member (.text "$ref") with
  | none => .ok (owner ++ "." ++ composition ++ "[" ++ toString index ++ "]")
  | some (.scalar (.text reference)) => .ok (Pointer.lastName reference)
  | some (.scalar (.bytes _)) => misuse .kind
  | some _ => misuse .part

/-- Gathers from a node under the name of its owner; `true` where required names do not count. -/
abbrev Gather := Item → String → Bool → Gathered → Conversion (Gathered × Option String)

def gatherMember (s : Scope) (gather : Gather) (owner composition : String) (optional : Bool)
    (state : Gathered × Option String) (member : Item × Nat) :
    Conversion (Gathered × Option String) := do
  let g := s.graph
  let fields := g.entries? member.1
  let node := target s.document member.1
  if g.isMap node then
    let inner ← ofExcept (memberOwner owner composition member.2 (fields.getD []))
    let (gathered, found) ← gather node inner optional state.1
    return (gathered, state.2.or found)
  else
    let reference := (fields.map (fieldOf · "$ref")).getD member.1
    noteIssue (brokenReference g reference (composition ++ " member not found"))
    return state

def demandedNames (g : Graph) (entries : Entries) (optional : Bool) : Except Fault (List Item) :=
  if optional then .ok [] else itemsOrNone g (fieldOf entries "required")

/-- Gathers the properties and required names of a node and of the members of its composition,
members first. Members of `anyOf`, and all below them, add no required names. The answer is the
name of the discriminating property: the node's own, or else the first that a member names. -/
def gatherFields (s : Scope) (convert : Convert) (gather : Gather) (entries : Entries)
    (owner : String) (optional : Bool) (sofar : Gathered) :
    Conversion (Gathered × Option String) := do
  let g := s.graph
  let allMembers ← ofExcept (itemsOrNone g (fieldOf entries "allOf"))
  let state ← allMembers.zipIdx.foldlM (gatherMember s gather owner "allOf" optional) (sofar, none)
  let anyMembers ← ofExcept (itemsOrNone g (fieldOf entries "anyOf"))
  let (sofar, first) ← anyMembers.zipIdx.foldlM (gatherMember s gather owner "anyOf" true) state
  let own ← ofExcept (entriesOrNone g (fieldOf entries "properties"))
  let sofar ← ownProperties s convert owner sofar own
  let names ← ofExcept (demandedNames g entries optional)
  let discriminator ← discriminatorOf g entries owner
  let sofar := names.foldl (addRequired g) sofar
  match (fieldOf discriminator "propertyName").text? with
  | some name => return (sofar, if name.isEmpty then first else some name)
  | none => return (sofar, first)

/-- Gathers from a node and all below it. A node is visited once. `fuel` bounds the depth of the
composition. -/
def gather (s : Scope) (convert : Convert) (fuel : Nat) : Gather :=
  fun node owner optional sofar =>
    match fuel, node, s.graph.entries? node with
    | fuel + 1, .node id, some entries =>
      if sofar.seen.contains id then return (sofar, none)
      else
        gatherFields s convert (gather s convert fuel) entries owner optional
          { sofar with seen := id :: sofar.seen }
    | _, _, _ => return (sofar, none)

def additionalOf (s : Scope) (convert : Convert) (entries : Entries) (name : String) :
    Conversion (Option Additional) := do
  let raw := fieldOf entries "additionalProperties"
  match raw, s.graph.entries? raw with
  | _, some [] => return some (.allowed true)
  | _, some _ =>
    return some (.type (← typeRefOf s convert raw (name ++ "_value") (some (name ++ ".*"))))
  | .scalar (.bool b), none => return some (.allowed b)
  | _, none => return none

def optionalValue {α : Type} (f : α → Value) : Option α → Value
  | some a => f a
  | none => .null

def buildObject (s : Scope) (convert : Convert) (id : String) (node : Item) (entries : Entries)
    (name : String) : Conversion TypeDefinition := do
  let g := s.graph
  let (gathered, discriminator) ← gather s convert (g.size + 1) node name false {}
  let additional ← additionalOf s convert entries name
  let rest := [("additional_properties", optionalValue Additional.dump additional),
    ("discriminator", optionalValue .text discriminator)] ++ notes g entries
  ofExcept (objectOf (.text id) (.text name) (gathered.properties.map Prod.snd) gathered.required
    (rest.map fun (k, v) => (.text k, v)))

def buildArray (s : Scope) (convert : Convert) (id : String) (entries : Entries) (name : String) :
    Conversion TypeDefinition := do
  let g := s.graph
  let items := fieldOf entries "items"
  if isNull items then throw (.node (.noItems name))
  let ref ← typeRefOf s convert items (name ++ "_item") (some (name ++ "[]"))
  ofExcept (checked "ArrayType" arrayType
    ([("id", .text id), ("name", .text name), ("items", ref.dump),
      ("min_items", g.value (fieldOf entries "minItems")),
      ("max_items", g.value (fieldOf entries "maxItems")),
      ("unique_items", g.value (fieldOf entries "uniqueItems"))] ++ notes g entries))

def variantsFrom (s : Scope) (convert : Convert) (name : String) (index : Nat) :
    List Item → Conversion (List TypeRef)
  | [] => return []
  | node :: rest => do
    let ref ← typeRefOf s convert node (name ++ "_variant" ++ toString index)
    return ref :: (← variantsFrom s convert name (index + 1) rest)

/-- A name in a discriminator's mapping stands for a component. -/
def mappingReference (name : String) : String :=
  if name.toList.head? == some '#' then name else "#/components/schemas/" ++ name

def mappingOf (s : Scope) (convert : Convert) (sofar : List (String × String)) :
    Entries → Conversion (List (String × String))
  | [] => return sofar
  | (key, item) :: rest =>
    match item.text? with
    | none => mappingOf s convert sofar rest
    | some name => do
      let shownKey ← ofExcept key.shown
      let id ← convert s.trail (.reference (mappingReference name))
      mappingOf s convert (putName sofar shownKey id) rest
where
  putName (entries : List (String × String)) (name id : String) : List (String × String) :=
    match entries with
    | [] => [(name, id)]
    | (k, v) :: rest => if k == name then (k, id) :: rest else (k, v) :: putName rest name id

def buildUnion (s : Scope) (convert : Convert) (id : String) (entries : Entries) (name : String) :
    Conversion TypeDefinition := do
  let g := s.graph
  let variants ← variantsFrom s convert name 0 ((g.items? (fieldOf entries "oneOf")).getD [])
  let discriminator ← discriminatorOf g entries name
  let mapping ← match g.entries? (fieldOf discriminator "mapping") with
    | some pairs => mappingOf s convert [] pairs
    | none => pure []
  let t ← ofExcept (checked "UnionType" unionType
    ([("id", .text id), ("name", .text name)] ++ notes g entries))
  let property := (fieldOf discriminator "propertyName").text?
  let mapping := if mapping.isEmpty then none else some mapping
  return { t with shape := .union variants property mapping }

def primitiveKinds : List (String × PrimitiveKind) :=
  [("string", .string), ("integer", .integer), ("number", .float), ("boolean", .boolean),
    ("null", .null)]

/-- A type that is not known is noted and taken for text. -/
def buildPrimitive (s : Scope) (id : String) (entries : Entries) (name : String) :
    Conversion TypeDefinition := do
  let g := s.graph
  let declared := declaredType g entries
  if g.truthy declared && !isKey g declared then throw (.misuse .kind)
  let kind ← match declared.text?.bind fun t => primitiveKinds.lookup t with
    | some kind => pure kind
    | none => do
      noteIssue (NodeIssue.worded (.unknownKind (g.value declared) name))
      pure .string
  let limits ← constraintsOf g entries name
  let t ← ofExcept (checked "PrimitiveType" primitiveType
    ([("id", .text id), ("name", .text name), ("primitive_kind", .text kind.name)] ++ notes g entries))
  return { t with shape := .primitive kind limits }

def build (s : Scope) (convert : Convert) (id : String) (node : Item) (entries : Entries)
    (name : String) : Conversion TypeDefinition :=
  let declared := declaredType s.graph entries
  if hasField entries "enum" || hasField entries "const" then buildEnum s id entries name
  else if isText declared "object" || ["properties", "allOf", "anyOf"].any (hasField entries) then
    buildObject s convert id node entries name
  else if isText declared "array" || hasField entries "items" then
    buildArray s convert id entries name
  else if hasField entries "oneOf" then buildUnion s convert id entries name
  else buildPrimitive s id entries name

def noteReference (reference id : String) : Conversion Unit :=
  modify fun c => { c with references := noteFirst c.references reference id }

def follow (s : Scope) (convert : Convert) (reference : String) : Conversion String := do
  let broken (reason : String) : Conversion String :=
    Conversion.placeholder (Pointer.lastName reference) (.unresolved reference (some reason))
      (some reference) none
  match (← get).lookup? { reference := some reference } with
  | some id => return id
  | none =>
    if reference.toList.head? != some '#' then broken "external reference was not bundled"
    else if s.trail.contains reference then broken "circular reference chain"
    else
      match localTarget? s.document reference with
      | none => broken "no such component"
      | some node =>
        match referenceOf? s.graph node with
        | some next =>
          let id ← convert (reference :: s.trail) (.reference next)
          noteReference reference id
          return id
        | none =>
          convert (reference :: s.trail)
            (.node node (Pointer.lastName reference) (some reference) none)

def convertStep (s : Scope) (convert : Convert) (ask : Ask) : Conversion String :=
  match ask with
  | .reference text => follow s convert text
  | .node item name reference pointer =>
    match s.graph.entries? item with
    | none =>
      Conversion.placeholder name (.unknownKind (.text (kindName s.graph item)) name) reference pointer
    | some entries =>
      match (fieldOf entries "$ref").text? with
      | some text => follow s convert text
      | none =>
        Conversion.resolve { Key.ofItem item with reference, pointer } name fun id =>
          build s convert id item entries name

def convertWithin (d : Document) : Nat → Convert
  | 0, _, _ => throw (.misuse .depth)
  | fuel + 1, trail, ask => convertStep ⟨d, trail⟩ (convertWithin d fuel) ask

def weight : Cell → Nat
  | .list items => items.length + 1
  | .map entries => entries.length + 1
  | .set members => members.length + 1
  | .pair .. => 3

/-- The conversion of any node. Asks inside each other concern different nodes and references, of
which there are no more than parts of the document. -/
def convertNode (d : Document) : Convert :=
  convertWithin d (d.graph.cells.foldl (fun n cell => n + weight cell) 2)

end ApiSchema.OpenApi
