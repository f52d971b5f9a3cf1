import ApiSchema.OpenApi.Convert
import ApiSchema.Proofs.Schema.Closed
import Mathlib.Data.List.Forall2

/-!
Where the type ids of a converted schema come from: for each place of a schema that holds a type
id, the part of the document that stands at the corresponding place.

`Shape.At`, `Parameter.At`, … say that `given` holds between every such part and the id it has.
What the composition of an object declares, the mapping of a discriminator and the parameters of an
operation are stated as functions of the document alone.
-/

namespace ApiSchema.OpenApi

/-- What a type id stands for: a part of the document, or a reference without a part of its own. -/
inductive Part where
  | node (item : Item)
  | name (reference : String)

def Part.reference? (g : Graph) : Part → Option String
  | .node item => referenceOf? g item
  | .name text => some text

abbrev Given := Part → String → Prop

abbrev Visited := Entries × List Nat

def visitMember (d : Document) (visit : Item → Visited → Visited) (sofar : Visited)
    (member : Item) : Visited :=
  if d.graph.isMap (target d member) then visit (target d member) sofar else sofar

def membersOf (g : Graph) (entries : Entries) (composition : String) : List Item :=
  (itemsOrNone g (fieldOf entries composition)).toOption.getD []

def declare (sofar own : Entries) : Entries :=
  own.foldl (fun entries entry => insertEntry entries entry.1 entry.2) sofar

def visitFields (d : Document) (visit : Item → Visited → Visited) (entries : Entries)
    (sofar : Visited) : Visited :=
  let members := membersOf d.graph entries "allOf" ++ membersOf d.graph entries "anyOf"
  let inner := members.foldl (visitMember d visit) sofar
  let own := (entriesOrNone d.graph (fieldOf entries "properties")).toOption.getD []
  (declare inner.1 own, inner.2)

def visitNode (d : Document) (fuel : Nat) (node : Item) (sofar : Visited) : Visited :=
  match fuel, node, d.graph.entries? node with
  | fuel + 1, .node id, some entries =>
      if sofar.2.contains id then sofar
      else visitFields d (visitNode d fuel) entries (sofar.1, id :: sofar.2)
  | _, _, _ => sofar

def declaredProperties (d : Document) (node : Item) : Entries :=
  (visitNode d (d.graph.size + 1) node ([], [])).1

/-- A node with the members of its composition, and theirs. -/
def composedNodes (d : Document) (node : Item) : List Nat :=
  (visitNode d (d.graph.size + 1) node ([], [])).2

theorem member_visited {d : Document} {visit : Item → Visited → Visited}
    (grows : ∀ node sofar, sofar.2 ⊆ (visit node sofar).2) (sofar : Visited) (member : Item) :
    sofar.2 ⊆ (visitMember d visit sofar member).2 := by
  unfold visitMember
  split
  · exact grows _ _
  · exact List.Subset.refl _

theorem members_visited {d : Document} {visit : Item → Visited → Visited}
    (grows : ∀ node sofar, sofar.2 ⊆ (visit node sofar).2) (members : List Item) (sofar : Visited) :
    sofar.2 ⊆ (members.foldl (visitMember d visit) sofar).2 := by
  induction members generalizing sofar with
  | nil => exact List.Subset.refl _
  | cons member rest ih => exact List.Subset.trans (member_visited grows sofar member) (ih _)

theorem fields_visited {d : Document} {visit : Item → Visited → Visited}
    (grows : ∀ node sofar, sofar.2 ⊆ (visit node sofar).2) (entries : Entries) (sofar : Visited) :
    sofar.2 ⊆ (visitFields d visit entries sofar).2 :=
  members_visited grows (membersOf d.graph entries "allOf" ++ membersOf d.graph entries "anyOf") sofar

theorem node_visited (d : Document) (fuel : Nat) (node : Item) (sofar : Visited) :
    sofar.2 ⊆ (visitNode d fuel node sofar).2 := by
  induction fuel generalizing node sofar with
  | zero => exact List.Subset.refl _
  | succ fuel ih =>
      unfold visitNode
      cases node with
      | scalar a => exact List.Subset.refl _
      | node id =>
          cases d.graph.entries? (.node id) with
          | none => exact List.Subset.refl _
          | some entries =>
              simp only
              split
              · exact List.Subset.refl _
              · exact List.Subset.trans (List.subset_cons_self id _) (fields_visited ih entries (sofar.1, id :: sofar.2))

def declaredDiscriminator (g : Graph) (entries : Entries) : Entries :=
  (g.entries? (fieldOf entries "discriminator")).getD []

def mappingNames (sofar : List (String × String)) : Entries → List (String × String)
  | [] => sofar
  | (key, item) :: rest =>
      match item.text? with
      | none => mappingNames sofar rest
      | some name => mappingNames (mappingOf.putName sofar key.display name) rest

def declaredMapping (g : Graph) (entries : Entries) : List (String × String) :=
  match g.entries? (fieldOf (declaredDiscriminator g entries) "mapping") with
  | some pairs => mappingNames [] pairs
  | none => []

def declaredVariants (g : Graph) (entries : Entries) : List Item :=
  (g.items? (fieldOf entries "oneOf")).getD []

def PropertyAt (given : Given) (entry : Scalar × Item) (p : Property) : Prop :=
  Check.text (.scalar entry.1) = .ok p.name ∧ given (.node entry.2) p.type.typeId

def MappingAt (given : Given) (entry : String × String) (named : String × String) : Prop :=
  entry.1 = named.1 ∧ given (.name (mappingReference entry.2)) named.2

def AdditionalAt (given : Given) (item : Item) (additional : Option Additional) : Prop :=
  ∀ ref, additional = some (.type ref) → given (.node item) ref.typeId

def ShapeAt (d : Document) (given : Given) (node : Item) (entries : Entries) : Shape → Prop
  | .primitive .. | .enum .. => True
  | .array items .. => given (.node (fieldOf entries "items")) items.typeId
  | .union variants _ mapping =>
      List.Forall₂ (fun x (ref : TypeRef) => given (.node x) ref.typeId)
        (declaredVariants d.graph entries) variants ∧
      List.Forall₂ (MappingAt given) (declaredMapping d.graph entries) (mapping.getD [])
  | .object properties _ additional _ =>
      List.Forall₂ (PropertyAt given) (declaredProperties d node) properties ∧
      AdditionalAt given (fieldOf entries "additionalProperties") additional

def mergedParameters (d : Document) (sofar : List ((Value × Value) × Entries)) :
    List Item → List Entries
  | [] => sofar.map Prod.snd
  | raw :: rest =>
      match d.graph.entries? (target d raw) with
      | none => mergedParameters d sofar rest
      | some entries =>
          if hasField entries "name" then
            let key := (d.graph.value (fieldOf entries "name"), d.graph.value (declaredLocation entries))
            mergedParameters d (putParameter sofar key entries) rest
          else mergedParameters d sofar rest

def mediumSchema? (g : Graph) (entries : Entries) : Option Item :=
  (pickMedia g (fieldOf entries "content")).toOption.bind fun media => (mediaSchema g media).toOption

def Kept {α β : Type} (made : α → β → Prop) (parts : List α) (results : List β) : Prop :=
  ∃ each : List (Option β), List.Forall₂ (fun a b => ∀ r, b = some r → made a r) parts each ∧
    results = each.filterMap id

def ParameterAt (d : Document) (given : Given) (entries : Entries) (p : Parameter) : Prop :=
  ∃ schema, parameterSchema d.graph entries = .ok schema ∧ given (.node schema) p.type.typeId

def BodyAt (d : Document) (given : Given) (raw : Item) (b : RequestBody) : Prop :=
  ∃ entries schema, d.graph.entries? (target d raw) = some entries ∧
    mediumSchema? d.graph entries = some schema ∧ given (.node schema) b.type.typeId

def HeaderAt (d : Document) (given : Given) (entry : Scalar × Item) (h : Header) : Prop :=
  ∃ entries, d.graph.entries? (target d entry.2) = some entries ∧
    given (.node (fieldOf entries "schema")) h.type.typeId

structure ResponseAt (d : Document) (given : Given) (entry : Scalar × Item) (r : Response) :
    Prop where
  type : ∀ ref, r.type = some ref → ∃ entries schema,
    d.graph.entries? (target d entry.2) = some entries ∧
      mediumSchema? d.graph entries = some schema ∧ given (.node schema) ref.typeId
  headers : ∀ headers, r.headers = some headers → ∃ entries declared,
    d.graph.entries? (target d entry.2) = some entries ∧
      entriesOrNone d.graph (fieldOf entries "headers") = .ok declared ∧
      Kept (HeaderAt d given) declared headers

structure Operation where
  path : Scalar
  method : Method
  shared : Item
  fields : Entries

structure EndpointAt (d : Document) (given : Given) (schemes : List String) (o : Operation)
    (e : Endpoint) : Prop where
  method : e.method = o.method
  path : Check.text (.scalar o.path) = .ok e.path
  parameters : ∃ outer inner, itemsOrNone d.graph o.shared = .ok outer ∧
    itemsOrNone d.graph (fieldOf o.fields "parameters") = .ok inner ∧
    Kept (ParameterAt d given) (mergedParameters d [] (outer ++ inner)) e.parameters
  body : ∀ b, e.requestBody = some b → BodyAt d given (fieldOf o.fields "requestBody") b
  responses : ∃ answers, entriesOrNone d.graph (fieldOf o.fields "responses") = .ok answers ∧
    Kept (ResponseAt d given) answers e.responses
  schemes : ∀ id ∈ e.authentication, id ∈ schemes

def ErrorAt (given : Given) (e : ErrorDefinition) : Prop :=
  ∀ ref, e.type = some ref → ∃ item, given (.node item) ref.typeId

def operationsIn (g : Graph) (path : Scalar) (shared : Item) : Entries → List Operation
  | [] => []
  | (name, node) :: rest =>
      match methodNamed? name, g.entries? node with
      | .ok (some method), some fields => ⟨path, method, shared, fields⟩ :: operationsIn g path shared rest
      | _, _ => operationsIn g path shared rest

def operationsOf (d : Document) : Entries → List Operation
  | [] => []
  | (path, node) :: rest =>
      match d.graph.entries? (target d node) with
      | some entries =>
          operationsIn d.graph path (fieldOf entries "parameters") entries ++ operationsOf d rest
      | none => operationsOf d rest

section Weaker

variable {d : Document} {given weaker : Given}

theorem shape_at_weaken (weakens : ∀ part id, given part id → weaker part id) {node : Item}
    {entries : Entries} {shape : Shape} (held : ShapeAt d given node entries shape) :
    ShapeAt d weaker node entries shape := by
  cases shape with
  | primitive => trivial
  | «enum» => trivial
  | array => exact weakens _ _ held
  | union =>
      exact ⟨held.1.imp fun _ _ => weakens _ _,
        held.2.imp fun _ _ entry => ⟨entry.1, weakens _ _ entry.2⟩⟩
  | object =>
      exact ⟨held.1.imp fun _ _ entry => ⟨entry.1, weakens _ _ entry.2⟩,
        fun ref same => weakens _ _ (held.2 ref same)⟩

theorem kept_weaken {α β : Type} {made looser : α → β → Prop} {parts : List α} {results : List β}
    (kept : Kept made parts results) (weakens : ∀ a b, made a b → looser a b) :
    Kept looser parts results := by
  obtain ⟨each, all, same⟩ := kept
  exact ⟨each, all.imp fun a b one r some => weakens a r (one r some), same⟩

theorem header_at_weaken (weakens : ∀ part id, given part id → weaker part id)
    (entry : Scalar × Item) (h : Header) (held : HeaderAt d given entry h) :
    HeaderAt d weaker entry h := by
  obtain ⟨entries, found, known⟩ := held
  exact ⟨entries, found, weakens _ _ known⟩

theorem response_at_weaken (weakens : ∀ part id, given part id → weaker part id)
    (entry : Scalar × Item) (r : Response) (held : ResponseAt d given entry r) :
    ResponseAt d weaker entry r := by
  refine ⟨fun ref typed => ?_, fun headers listed => ?_⟩
  · obtain ⟨entries, schema, found, read, known⟩ := held.type ref typed
    exact ⟨entries, schema, found, read, weakens _ _ known⟩
  · obtain ⟨entries, declared, found, read, kept⟩ := held.headers headers listed
    exact ⟨entries, declared, found, read, kept_weaken kept (header_at_weaken weakens)⟩

theorem endpoint_at_weaken (weakens : ∀ part id, given part id → weaker part id)
    {schemes : List String} (o : Operation) (e : Endpoint) (held : EndpointAt d given schemes o e) :
    EndpointAt d weaker schemes o e := by
  obtain ⟨outer, inner, outerRead, innerRead, parameters⟩ := held.parameters
  obtain ⟨answers, read, responses⟩ := held.responses
  refine ⟨held.method, held.path, ⟨outer, inner, outerRead, innerRead, ?_⟩, ?_, ⟨answers, read, ?_⟩,
    held.schemes⟩
  · refine kept_weaken parameters fun entries p made => ?_
    obtain ⟨schema, read, known⟩ := made
    exact ⟨schema, read, weakens _ _ known⟩
  · intro b same
    obtain ⟨entries, schema, found, read, known⟩ := held.body b same
    exact ⟨entries, schema, found, read, weakens _ _ known⟩
  · exact kept_weaken responses (response_at_weaken weakens)

theorem error_at_weaken (weakens : ∀ part id, given part id → weaker part id)
    {e : ErrorDefinition} (held : ErrorAt given e) : ErrorAt weaker e := by
  intro ref typed
  obtain ⟨item, known⟩ := held ref typed
  exact ⟨item, weakens _ _ known⟩

end Weaker

end ApiSchema.OpenApi
