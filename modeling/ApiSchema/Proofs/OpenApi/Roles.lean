import ApiSchema.OpenApi.Convert
import ApiSchema.Proofs.Document.Within

/-!
What the parts of a document are read as.

A part is read as a schema, a response, a list of parameters, plain data and so on, depending on how a
conversion comes to it, and one part may be read as several. Of some kinds of parts only fields with certain
names are read; of tables, lists and data everything is. `Acts` says what every part is read as.
-/

namespace ApiSchema.OpenApi

inductive Role where
  | document
  | info
  | components
  | schemas
  | schemes
  | scheme
  | paths
  | path
  | operation
  | parameters
  | parameter
  | content
  | media
  | body
  | responses
  | response
  | headers
  | header
  | schema
  | extra
  | members
  | discriminator
  | mapping
  | data
deriving DecidableEq

namespace Role

def plain (names : List String) : List (String × Role) := names.map (·, data)

def fields : Role → List (String × Role)
  | document => plain ["openapi", "servers", "security"] ++
      [("info", info), ("components", components), ("paths", paths)]
  | info => plain ["title", "version", "description", "termsOfService", "contact", "license"]
  | components => [("schemas", schemas), ("securitySchemes", schemes)]
  | scheme => plain ["$ref", "type", "description", "scheme", "name", "in", "bearerFormat", "flows"]
  | path => plain ["$ref"] ++ [("parameters", parameters)]
  | operation => plain ["operationId", "summary", "description", "tags", "deprecated", "security"] ++
      [("parameters", parameters), ("requestBody", body), ("responses", responses)]
  | parameter => plain ["$ref", "name", "in", "required", "description", "deprecated"] ++
      [("schema", schema), ("content", content)]
  | media => [("schema", schema)]
  | body => plain ["$ref", "required", "description"] ++ [("content", content)]
  | response => plain ["$ref", "description"] ++ [("content", content), ("headers", headers)]
  | header => plain ["$ref", "required", "description"] ++ [("schema", schema)]
  | schema => plain ["$ref", "nullable", "type", "description", "deprecated", "default", "enum", "const",
        "required", "minItems", "maxItems", "uniqueItems"] ++ plain (keywords.map Prod.fst) ++
      [("properties", schemas), ("allOf", members), ("anyOf", members), ("oneOf", members),
        ("items", schema), ("additionalProperties", schema), ("additionalProperties", extra),
        ("discriminator", discriminator)]
  | discriminator => plain ["propertyName"] ++ [("mapping", mapping)]
  | _ => []

def each : Role → Option Role
  | schemas => some schema
  | schemes => some scheme
  | paths => some path
  | parameters => some parameter
  | content => some media
  | responses => some response
  | headers => some header
  | members => some schema
  | mapping => some data
  | data => some data
  | _ => none

def follows : Role → Bool
  | scheme | path | parameter | body | response | header | schema => true
  | _ => false

def operations : Role → Entries → List Item
  | path, entries => entries.filterMap fun (name, node) =>
      match methodNamed? name with
      | .ok (some _) => some node
      | _ => none
  | _, _ => []

def parts (role : Role) (g : Graph) (item : Item) : List (Role × Item) :=
  match g.of? item, role.each with
  | some (.map entries), none => role.fields.map (fun (name, part) => (part, fieldOf entries name)) ++
      (role.operations entries).map (operation, ·)
  | some cell, part => cell.parts.map (part.getD data, ·)
  | none, _ => []

def links (role : Role) (g : Graph) (item : Item) : List (Role × String) :=
  match role with
  | mapping => ((g.entries? item).getD []).filterMap fun (_, named) =>
      named.text?.map fun name => (schema, mappingReference name)
  | _ => if role.follows then (referenceOf? g item).toList.map (role, ·) else []

end Role

/-- A part of a document is read as this. What has no parts may be anything. -/
inductive Acts (d : Document) : Role → Item → Prop
  | root : Acts d .document d.root
  | scalar (role : Role) (s : Scalar) : Acts d role (.scalar s)
  | part {role role' : Role} {item part : Item} (around : Acts d role item)
      (held : (role', part) ∈ role.parts d.graph item) : Acts d role' part
  | link {role role' : Role} {item part : Item} {reference : String} (around : Acts d role item)
      (named : (role', reference) ∈ role.links d.graph item)
      (found : localTarget? d reference = some part) : Acts d role' part

def leavesBy (g : Graph) (n : Nat) (k : String) : Item → List (List Char) → Bool
  | _, [] => false
  | item, step :: rest => item = .node n ∧ Pointer.unescape step = k.toList ∨
      (Pointer.follow? g item step).any fun next => leavesBy g n k next rest

def crosses (d : Document) (n : Nat) (k reference : String) : Bool :=
  match reference.toList with
  | '#' :: pointer => leavesBy d.graph n k d.root (Pointer.steps pointer)
  | _ => false

/-- The entry of a node under a name may matter at most where it is read by that name. -/
structure Confined (d : Document) (n : Nat) (k : String) : Prop where
  named : ∀ role, Acts d role (.node n) → role.each = none
  apart : ∀ role item part reference, Acts d role item → (part, reference) ∈ role.links d.graph item →
    crosses d n k reference = false
  kept : Acts d .extra (.node n) → d.graph.entries? (.node n) ≠ some []

section Parts

variable {g : Graph} {item : Item}

theorem field_inside (entries : Entries) (name : String) :
    fieldOf entries name = .null ∨ fieldOf entries name ∈ entries.map (·.2) := by
  unfold fieldOf
  cases found : lookup? entries (.text name) with
  | none => exact .inl rfl
  | some value => exact .inr (Pointer.lookup_member found)

theorem operation_inside {role : Role} {entries : Entries} {node : Item}
    (member : node ∈ role.operations entries) : node ∈ entries.map (·.2) := by
  cases role with
  | path =>
      obtain ⟨⟨name, other⟩, held, found⟩ := List.mem_filterMap.mp member
      simp only at found
      split at found
      · cases found
        exact List.mem_map.mpr ⟨_, held, rfl⟩
      · cases found
  | _ => cases member

theorem part_inside {role role' : Role} {part : Item} (held : (role', part) ∈ role.parts g item) :
    part = .null ∨ ∃ cell, g.of? item = some cell ∧ part ∈ cell.parts := by
  unfold Role.parts at held
  split at held
  next entries is _ =>
    obtain named | method := List.mem_append.mp held
    · obtain ⟨⟨name, _⟩, _, same⟩ := List.mem_map.mp named
      cases same
      exact (field_inside entries name).imp_right fun member => ⟨_, is, member⟩
    · obtain ⟨node, member, same⟩ := List.mem_map.mp method
      cases same
      exact .inr ⟨_, is, operation_inside member⟩
  next cell _ is _ =>
    obtain ⟨_, member, same⟩ := List.mem_map.mp held
    cases same
    exact .inr ⟨_, is, member⟩
  next => cases held

theorem acts_within {d : Document} {role : Role} (acts : Acts d role item) :
    ∀ id, item = .node id → d.graph.Within d.root id := by
  induction acts with
  | root => exact fun id is => .self is
  | scalar => exact fun id is => by cases is
  | @part role _ around part _ held ih =>
      rintro id rfl
      obtain none_ | ⟨cell, is, member⟩ := part_inside held
      · cases none_
      · cases around with
        | scalar s => cases is
        | node j => exact .part (ih j rfl) is member
  | link _ _ found _ =>
      unfold localTarget? at found
      split at found
      · exact Pointer.resolve_within found
      · cases found

-- A field that is read by its name acts as what it is read as.
theorem acts_field {d : Document} {role part : Role} {entries : Entries} {name : String}
    (acts : Acts d role item) (map : d.graph.entries? item = some entries)
    (listed : (name, part) ∈ role.fields) : Acts d part (fieldOf entries name) := by
  have is : d.graph.of? item = some (.map entries) := by
    unfold Graph.entries? at map
    split at map
    next held => cases map; exact held
    next => cases map
  have byName : role.each = none := by cases role <;> first | rfl | cases listed
  refine .part acts ?_
  simp only [Role.parts, is, byName]
  exact List.mem_append_left _ (List.mem_map.mpr ⟨_, listed, rfl⟩)

theorem acts_each {d : Document} {role part : Role} {cell : Cell} (acts : Acts d role item)
    (is : d.graph.of? item = some cell) (all : role.each = some part) {inner : Item}
    (member : inner ∈ cell.parts) : Acts d part inner := by
  refine .part acts ?_
  cases cell <;> simpa [Role.parts, is, all] using member

end Parts

section Listed

variable {d : Document} {listed : List (Role × Item)} {n : Nat} {k : String}

def within (listed : List (Role × Item)) (role : Role) : Item → Bool
  | .scalar _ => true
  | item => listed.contains (role, item)

def covers (d : Document) (listed : List (Role × Item)) : Bool :=
  within listed .document d.root && listed.all fun (role, item) =>
    (role.parts d.graph item).all (fun (part, inner) => within listed part inner) &&
      (role.links d.graph item).all fun (part, reference) =>
        (localTarget? d reference).all fun inner => within listed part inner

theorem acts_listed (all : covers d listed = true) {role : Role} {item : Item} (acts : Acts d role item) :
    within listed role item = true := by
  obtain ⟨root, inner⟩ : within listed .document d.root = true ∧ _ := Bool.and_eq_true_iff.mp all
  have around {role : Role} {item : Item} (held : within listed role item = true) :
      (∀ part ∈ role.parts d.graph item, within listed part.1 part.2 = true) ∧
        ∀ link ∈ role.links d.graph item, ∀ part, localTarget? d link.2 = some part →
          within listed link.1 part = true := by
    cases item with
    -- Scalars lead to nothing further, so that they need not be listed.
    | scalar s => cases role <;> simp [Role.parts, Role.links, Graph.of?, Graph.entries?, referenceOf?]
    | node id =>
        have member : (role, .node id) ∈ listed := by simpa [within] using held
        obtain ⟨parts, links⟩ := Bool.and_eq_true_iff.mp (List.all_eq_true.mp inner _ member)
        refine ⟨List.all_eq_true.mp parts, fun link named part found => ?_⟩
        simpa only [found, Option.all_some] using List.all_eq_true.mp links link named
  induction acts with
  | root => exact root
  | scalar => rfl
  | part _ held ih => exact (around ih).1 _ held
  | link _ named found ih => exact (around ih).2 _ named _ found

-- Where a list tells what is read, it tells whether an entry is confined.
theorem confined_listed (all : covers d listed = true)
    (apart : listed.all (fun (role, item) =>
      (item ≠ .node n || role.each.isNone) && (role.links d.graph item).all fun (_, reference) =>
        !crosses d n k reference) = true)
    (kept : (.extra, .node n) ∉ listed) : Confined d n k := by
  have each {role : Role} {id : Nat} (acts : Acts d role (.node id)) : (role, .node id) ∈ listed := by
    simpa [within] using acts_listed all acts
  refine ⟨fun role acts => ?_, fun role item part reference acts named => ?_,
    fun acts => absurd (each acts) kept⟩
  · simpa using (Bool.and_eq_true_iff.mp (List.all_eq_true.mp apart _ (each acts))).1
  · cases item with
    | scalar s => cases role <;> simp [Role.links, Graph.of?, Graph.entries?, referenceOf?] at named
    | node id =>
        have stays := (Bool.and_eq_true_iff.mp (List.all_eq_true.mp apart _ (each acts))).2
        simpa using List.all_eq_true.mp stays _ named

end Listed

end ApiSchema.OpenApi
