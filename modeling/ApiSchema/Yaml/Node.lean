import ApiSchema.Yaml.Lexer
import ApiSchema.Yaml.Tag

namespace ApiSchema.Yaml

inductive Content where
  | scalar (text : String)
  | sequence (items : List Nat)
  | mapping (entries : List (Nat × Nat))

structure Node where
  tag : Tag
  content : Content

instance : Inhabited Node := ⟨⟨.null, .scalar ""⟩⟩

structure Composer where
  tokens : List Token
  nodes : Array Node := #[]
  anchors : List (String × Nat) := []
  handles : List (String × String) := []

abbrev Composing := ExceptT LoadFault (StateM Composer)

namespace Composer

def malformed {α : Type} : Composing α := throw .malformed

def peek : Composing Token := do
  match (← get).tokens with
  | .broken fault :: _ => throw fault
  | t :: _ => return t
  | [] => malformed

def drop : Composing Unit := modify fun c => { c with tokens := c.tokens.drop 1 }

def add (tag : Tag) (content : Content) : Composing Nat := do
  let c ← get
  set { c with nodes := c.nodes.push ⟨tag, content⟩ }
  return c.nodes.size

def setContent (id : Nat) (content : Content) : Composing Unit :=
  modify fun c => { c with nodes := c.nodes.modify id fun n => { n with content } }

def note (anchor : Option String) (id : Nat) : Composing Unit :=
  match anchor with
  | some name => modify fun c => { c with anchors := c.anchors ++ [(name, id)] }
  | none => return ()

def empty : Composing Nat := add .null (.scalar "")

def properties : Composing (Option String × Option (Option String × String)) := do
  match ← peek with
  | .anchor name =>
    drop
    match ← peek with
    | .tag handle rest => drop; return (some name, some (handle, rest))
    | _ => return (some name, none)
  | .tag handle rest =>
    drop
    match ← peek with
    | .anchor name => drop; return (some name, some (handle, rest))
    | _ => return (none, some (handle, rest))
  | _ => return (none, none)

def tagText (written : Option (Option String × String)) : Composing (Option String) := do
  match written with
  | none => return none
  | some (none, rest) => return some rest
  | some (some handle, rest) =>
    match (← get).handles.lookup handle with
    | some start => return some (start ++ rest)
    | none => malformed

def tagOr (given : Option String) (default : Tag) : Tag :=
  match given with
  | none | some "!" => default
  | some name => Tag.ofName name

def isOneOf (t : Token) (kinds : List Token) : Bool :=
  kinds.any fun k =>
    match t, k with
    | .key, .key | .value, .value | .blockEntry, .blockEntry | .blockEnd, .blockEnd
    | .flowEntry, .flowEntry | .flowSequenceEnd, .flowSequenceEnd
    | .flowMappingEnd, .flowMappingEnd => true
    | _, _ => false

/-- How a node is read in its surroundings: whether it may be a block collection, and whether a
sequence may stand at the depth of the mapping around it. -/
structure Position where
  block : Bool
  indentless : Bool

def inBlock : Position := ⟨true, false⟩

def inMapping : Position := ⟨true, true⟩

def inFlow : Position := ⟨false, false⟩

abbrev ReadNode := Position → Composing Nat

def nodeUnless (read : ReadNode) (position : Position) (ends : List Token) : Composing Nat := do
  if isOneOf (← peek) ends then empty else read position

def blockItems (read : ReadNode) : Nat → List Nat → Composing (List Nat)
  | 0, _ => malformed
  | fuel + 1, done => do
    match ← peek with
    | .blockEntry =>
      drop
      let item ← nodeUnless read inBlock [.blockEntry, .blockEnd]
      blockItems read fuel (item :: done)
    | .blockEnd => drop; return done.reverse
    | _ => malformed

def indentlessItems (read : ReadNode) : Nat → List Nat → Composing (List Nat)
  | 0, _ => malformed
  | fuel + 1, done => do
    match ← peek with
    | .blockEntry =>
      drop
      let item ← nodeUnless read inBlock [.blockEntry, .key, .value, .blockEnd]
      indentlessItems read fuel (item :: done)
    | _ => return done.reverse

def valueUnless (read : ReadNode) (position : Position) (ends : List Token) : Composing Nat := do
  match ← peek with
  | .value => drop; nodeUnless read position ends
  | _ => empty

def blockEntries (read : ReadNode) : Nat → List (Nat × Nat) → Composing (List (Nat × Nat))
  | 0, _ => malformed
  | fuel + 1, done => do
    let ends := [Token.key, .value, .blockEnd]
    match ← peek with
    | .key =>
      drop
      let key ← nodeUnless read inMapping ends
      let value ← valueUnless read inMapping ends
      blockEntries read fuel ((key, value) :: done)
    | .blockEnd => drop; return done.reverse
    | _ => malformed

def separator (isFirst : Bool) : Composing Unit := do
  if !isFirst then
    match ← peek with
    | .flowEntry => drop
    | _ => malformed

def singlePair (read : ReadNode) : Composing Nat := do
  drop
  let id ← add .map (.mapping [])
  let key ← nodeUnless read inFlow [.value, .flowEntry, .flowSequenceEnd]
  let value ← valueUnless read inFlow [.flowEntry, .flowSequenceEnd]
  setContent id (.mapping [(key, value)])
  return id

def flowItems (read : ReadNode) : Nat → List Nat → Composing (List Nat)
  | 0, _ => malformed
  | fuel + 1, done => do
    match ← peek with
    | .flowSequenceEnd => drop; return done.reverse
    | _ =>
      separator done.isEmpty
      match ← peek with
      | .key => flowItems read fuel ((← singlePair read) :: done)
      | .flowSequenceEnd => drop; return done.reverse
      | _ => flowItems read fuel ((← read inFlow) :: done)

def flowEntries (read : ReadNode) : Nat → List (Nat × Nat) → Composing (List (Nat × Nat))
  | 0, _ => malformed
  | fuel + 1, done => do
    match ← peek with
    | .flowMappingEnd => drop; return done.reverse
    | _ =>
      separator done.isEmpty
      match ← peek with
      | .key =>
        drop
        let key ← nodeUnless read inFlow [.value, .flowEntry, .flowMappingEnd]
        let value ← valueUnless read inFlow [.flowEntry, .flowMappingEnd]
        flowEntries read fuel ((key, value) :: done)
      | .flowMappingEnd => drop; return done.reverse
      | _ =>
        let key ← read inFlow
        flowEntries read fuel ((key, ← empty) :: done)

def sequence (anchor tag : Option String) (items : Nat → List Nat → Composing (List Nat)) :
    Composing Nat := do
  let id ← add (tagOr tag .seq) (.sequence [])
  note anchor id
  setContent id (.sequence (← items ((← get).tokens.length + 1) []))
  return id

def mapping (anchor tag : Option String)
    (entries : Nat → List (Nat × Nat) → Composing (List (Nat × Nat))) : Composing Nat := do
  let id ← add (tagOr tag .map) (.mapping [])
  note anchor id
  setContent id (.mapping (← entries ((← get).tokens.length + 1) []))
  return id

def scalar (anchor tag : Option String) (text : String) (isPlain : Bool) : Composing Nat := do
  let resolved := if (isPlain && tag.isNone) || tag == some "!" then Tag.ofPlain text else .str
  let id ← add (tagOr tag resolved) (.scalar text)
  note anchor id
  return id

def node : Nat → ReadNode
  | 0, _ => throw (.misuse .depth)
  | depth + 1, position => do
    let read := node depth
    match ← peek with
    | .alias name =>
      drop
      match (← get).anchors.lookup name with
      | some id => return id
      | none => malformed
    | _ =>
      let (anchor, written) ← properties
      let tag ← tagText written
      let anchors := (← get).anchors
      if anchor.any fun name => (anchors.lookup name).isSome then malformed
      match ← peek with
      | .blockEntry =>
        if position.indentless then sequence anchor tag (indentlessItems read)
        else if anchor.isSome || tag.isSome then scalar anchor tag "" true
        else malformed
      | .scalar text isPlain => drop; scalar anchor tag text isPlain
      | .flowSequenceStart => drop; sequence anchor tag (flowItems read)
      | .flowMappingStart => drop; mapping anchor tag (flowEntries read)
      | .blockSequenceStart =>
        if position.block then drop; sequence anchor tag (blockItems read)
        else if anchor.isSome || tag.isSome then scalar anchor tag "" true
        else malformed
      | .blockMappingStart =>
        if position.block then drop; mapping anchor tag (blockEntries read)
        else if anchor.isSome || tag.isSome then scalar anchor tag "" true
        else malformed
      | _ =>
        if anchor.isSome || tag.isSome then scalar anchor tag "" true else malformed

def defaultHandles : List (String × String) := [("!", "!"), ("!!", "tag:yaml.org,2002:")]

def directives : Nat → Bool → List (String × String) → Composing (List (String × String))
  | 0, _, _ => malformed
  | fuel + 1, hasVersion, handles => do
    match ← peek with
    | .directive (.version major) =>
      if hasVersion || major ≠ 1 then malformed
      drop
      directives fuel true handles
    | .directive (.tagHandle handle start) =>
      if (handles.lookup handle).isSome then malformed
      drop
      directives fuel hasVersion (handles ++ [(handle, start)])
    | .directive .unknown => drop; directives fuel hasVersion handles
    | _ => return handles

def skipDocumentEnds : Nat → Composing Unit
  | 0 => return ()
  | fuel + 1 => do
    match ← peek with
    | .documentEnd => drop; skipDocumentEnds fuel
    | _ => return ()

def explicitDocument (depth : Nat) : Composing Nat := do
  let handles ← directives ((← get).tokens.length + 1) false []
  modify fun c => { c with handles := handles ++ defaultHandles }
  match ← peek with
  | .documentStart => drop
  | _ => malformed
  match ← peek with
  | .directive _ | .documentStart | .documentEnd | .streamEnd => empty
  | _ => node depth inBlock

def document (depth : Nat) : Composing (Option Nat) := do
  let count := (← get).tokens.length + 1
  let root ← match ← peek with
    | .streamEnd => pure none
    | .directive _ | .documentStart => some <$> explicitDocument depth
    | _ => do
      modify fun c => { c with handles := defaultHandles }
      some <$> node depth inBlock
  skipDocumentEnds count
  match ← peek with
  | .streamEnd => return root
  | _ => malformed

end Composer

def usualDepth : Nat := 490

def compose (text : String) (depth : Nat) : Except LoadFault (Array Node × Option Nat) :=
  match (Composer.document depth).run.run { tokens := (tokens text).toList } with
  | (.ok root, c) => .ok (c.nodes, root)
  | (.error fault, _) => .error fault

end ApiSchema.Yaml
