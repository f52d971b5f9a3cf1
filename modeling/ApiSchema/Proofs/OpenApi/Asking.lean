import ApiSchema.OpenApi.Convert
import ApiSchema.Proofs.Document.Within
import ApiSchema.Proofs.OpenApi.Gathering
import ApiSchema.Proofs.OpenApi.Schemas
import ApiSchema.Proofs.OpenApi.Script

namespace ApiSchema.OpenApi

open Regime

def mentionsOf : Cell → List String
  | .map entries => entries.filterMap fun entry => entry.2.text?.map mappingReference
  | _ => []

def mentions (d : Document) : List String := d.graph.cells.toList.flatMap mentionsOf

theorem mentioned {d : Document} {item : Item} {entries : Entries}
    (map : d.graph.entries? item = some entries) {value : Item} (member : value ∈ entries.map (·.2))
    {text : String} (said : value.text? = some text) : mappingReference text ∈ mentions d := by
  obtain ⟨n, rfl, held⟩ := entries_cell map
  obtain ⟨entry, there, rfl⟩ := List.mem_map.mp member
  have cell : Cell.map entries ∈ d.graph.cells.toList :=
    Array.mem_toList_iff.mpr (Array.mem_of_getElem? held)
  refine List.mem_flatMap.mpr ⟨_, cell, List.mem_filterMap.mpr ⟨entry, there, ?_⟩⟩
  simp [said]

theorem local_mapping {text : String} (head : text.toList.head? = some '#') :
    mappingReference text = text := by
  simp [mappingReference, head]

theorem field_member {entries : Entries} {name text : String}
    (said : (fieldOf entries name).text? = some text) :
    fieldOf entries name ∈ entries.map (·.2) := by
  unfold fieldOf at said ⊢
  cases found : lookup? entries (.text name) with
  | none =>
      rw [found] at said
      cases said
  | some value =>
      exact Pointer.lookup_member found

def Mentioned (d : Document) (q : Question) : Prop :=
  ∀ text, q.ask = .reference text → text.toList.head? = some '#' → text ∈ mentions d

def Inner (s : Scope) (q : Question) : Prop := q.trail = s.trail ∧ Mentioned s.document q

section Builders

variable (s : Scope)

theorem node_inner (item : Item) (name : String) (reference pointer : Option String) :
    Inner s ⟨s.trail, .node item name reference pointer⟩ := ⟨rfl, fun _ same => by cases same⟩

theorem type_ref_asks (node : Item) (name : String) (pointer : Option String) :
    Asks (Inner s) fun convert => typeRefOf s convert node name pointer := by
  unfold typeRefOf
  exact asks_bind (asks_convert (node_inner s node name none pointer)) fun id => asks_pure _

theorem except_asks {fits : Question → Prop} {α : Type} (e : Except Fault α) :
    Asks fits fun _ => ofExcept e := asks_fixed (lasting_of_except e)

theorem warn_asks {fits : Question → Prop} (message : Except Fault String) :
    Asks fits fun _ => warnOf message :=
  asks_bind (except_asks message) fun text => asks_fixed (lasting_warn text)

theorem note_asks {fits : Question → Prop} (issue : Except Fault NodeIssue) :
    Asks fits fun _ => noteIssue issue :=
  asks_bind (except_asks issue) fun said => asks_fixed (lasting_record said)

theorem property_asks (owner : String) (name : Scalar) (node : Item) :
    Asks (Inner s) fun convert => propertyOf s convert owner name node := by
  unfold propertyOf
  refine asks_bind (except_asks _) fun shownName => ?_
  refine asks_bind (type_ref_asks s _ _ _) fun type => ?_
  refine asks_bind (asks_fixed (lasting_kept fun c => constraints_of_kept (idle s c) _ _ _)) fun limits => ?_
  exact asks_bind (except_asks _) fun p => asks_pure _

theorem own_properties_asks (owner : String) (own : Entries) (sofar : Gathered) :
    Asks (Inner s) fun convert => ownProperties s convert owner sofar own := by
  induction own generalizing sofar with
  | nil => exact asks_pure sofar
  | cons entry rest ih =>
      obtain ⟨name, node⟩ := entry
      exact asks_bind (property_asks s owner name node) fun p => ih _

-- Gathering asks as the builders do, whatever is gathered from below.
theorem member_asks {gather : Convert → Gather}
    (below : ∀ node owner optional sofar,
      Asks (Inner s) fun convert => gather convert node owner optional sofar)
    (owner composition : String) (optional : Bool) (state : Gathered × Option String)
    (member : Item × Nat) : Asks (Inner s) fun convert =>
      gatherMember s (gather convert) owner composition optional state member := by
  unfold gatherMember
  extract_lets g fields node
  by_cases map : g.isMap node
  · simp only [map, if_true]
    refine asks_bind (except_asks _) fun inner => ?_
    exact asks_bind (below node inner optional state.1) fun found => asks_pure _
  · simp only [map, Bool.false_eq_true, if_false]
    exact asks_bind (note_asks _) fun _ => asks_pure state

theorem gather_fields_asks {gather : Convert → Gather}
    (below : ∀ node owner optional sofar,
      Asks (Inner s) fun convert => gather convert node owner optional sofar)
    (entries : Entries) (owner : String) (optional : Bool) (sofar : Gathered) :
    Asks (Inner s) fun convert =>
      gatherFields s convert (gather convert) entries owner optional sofar := by
  unfold gatherFields
  refine asks_bind (except_asks _) fun all => ?_
  refine asks_bind (asks_fold _ _ fun state member =>
    member_asks s below owner "allOf" optional state member) fun state => ?_
  refine asks_bind (except_asks _) fun any => ?_
  refine asks_bind (asks_fold _ _ fun state member =>
    member_asks s below owner "anyOf" true state member) fun state => ?_
  refine asks_bind (except_asks _) fun own => ?_
  refine asks_bind (own_properties_asks s owner own _) fun sofar => ?_
  refine asks_bind (except_asks _) fun names => ?_
  refine asks_bind (asks_fixed (lasting_kept fun c => discriminator_of_kept (idle s c) _ _ _))
    fun fields => ?_
  split
  · exact asks_pure _
  · exact asks_pure _

theorem gather_asks (fuel : Nat) (node : Item) (owner : String) (optional : Bool) (sofar : Gathered) :
    Asks (Inner s) fun convert => gather s convert fuel node owner optional sofar := by
  induction fuel generalizing node owner optional sofar with
  | zero => exact asks_pure _
  | succ fuel ih =>
      unfold gather
      cases node with
      | scalar a => exact asks_pure _
      | node id =>
          cases found : s.graph.entries? (.node id) with
          | none => exact asks_pure _
          | some entries =>
              simp only
              by_cases visited : sofar.seen.contains id = true
              · simp only [visited, if_true]
                exact asks_pure _
              · simp only [visited, Bool.false_eq_true, if_false]
                exact gather_fields_asks s ih entries owner optional _

theorem additional_asks (entries : Entries) (name : String) :
    Asks (Inner s) fun convert => additionalOf s convert entries name := by
  unfold additionalOf
  extract_lets raw
  cases found : s.graph.entries? raw with
  | some fields =>
      cases fields with
      | nil => exact asks_pure _
      | cons entry rest => exact asks_bind (type_ref_asks s _ _ _) fun type => asks_pure _
  | none =>
      cases raw with
      | node n => exact asks_pure _
      | scalar a => cases a <;> exact asks_pure _

theorem build_object_asks (id : String) (node : Item) (entries : Entries) (name : String) :
    Asks (Inner s) fun convert => buildObject s convert id node entries name := by
  unfold buildObject
  refine asks_bind (gather_asks s _ node name false {}) fun found => ?_
  exact asks_bind (additional_asks s entries name) fun additional => except_asks _

theorem build_array_asks (id : String) (entries : Entries) (name : String) :
    Asks (Inner s) fun convert => buildArray s convert id entries name := by
  unfold buildArray
  extract_lets g items
  by_cases empty : isNull items = true
  · simp only [empty, if_true]
    exact asks_fixed (lasting_throw _)
  · simp only [empty, Bool.false_eq_true, if_false]
    exact asks_bind (type_ref_asks s _ _ _) fun ref => except_asks _

theorem variants_asks (name : String) (index : Nat) (items : List Item) :
    Asks (Inner s) fun convert => variantsFrom s convert name index items := by
  induction items generalizing index with
  | nil => exact asks_pure []
  | cons node rest ih =>
      exact asks_bind (type_ref_asks s _ _ _) fun ref => asks_bind (ih _) fun refs => asks_pure _

theorem mapping_asks {item : Item} {pairs : Entries} (map : s.graph.entries? item = some pairs)
    (sofar : List (String × String)) (rest : Entries) (part : ∀ entry ∈ rest, entry ∈ pairs) :
    Asks (Inner s) fun convert => mappingOf s convert sofar rest := by
  induction rest generalizing sofar with
  | nil => exact asks_pure sofar
  | cons entry rest ih =>
      obtain ⟨key, value⟩ := entry
      have later := fun sofar => ih sofar fun e member => part e (by simp [member])
      unfold mappingOf
      cases said : value.text? with
      | none => exact later sofar
      | some name =>
          have known : mappingReference name ∈ mentions s.document :=
            mentioned map (List.mem_map.mpr ⟨(key, value), part _ (by simp), rfl⟩) said
          refine asks_bind (except_asks _) fun shownKey => ?_
          refine asks_bind (asks_convert ⟨rfl, fun text same _ => ?_⟩) fun id => later _
          cases same
          exact known

theorem build_union_asks (id : String) (entries : Entries) (name : String) :
    Asks (Inner s) fun convert => buildUnion s convert id entries name := by
  unfold buildUnion
  refine asks_bind (variants_asks s name 0 _) fun variants => ?_
  refine asks_bind (asks_fixed (lasting_kept fun c => discriminator_of_kept (idle s c) _ _ _))
    fun discriminator => ?_
  extract_lets property finish
  have finished : ∀ mapping, Asks (Inner s) fun _ => finish mapping :=
    fun mapping => asks_bind (except_asks _) fun t => asks_pure _
  cases map : s.graph.entries? (fieldOf discriminator "mapping") with
  | none => exact finished []
  | some pairs => exact asks_bind (mapping_asks s map [] pairs fun _ member => member) finished

theorem build_asks (id : String) (node : Item) (entries : Entries) (name : String) :
    Asks (Inner s) fun convert => build s convert id node entries name := by
  unfold build
  extract_lets declared
  by_cases fixed : (hasField entries "enum" || hasField entries "const") = true
  · simp only [fixed, if_true]
    exact asks_fixed (lasting_kept fun c => build_enum_kept (idle s c) id node entries name)
  simp only [fixed, Bool.false_eq_true, if_false]
  by_cases object : (isText declared "object" ||
      ["properties", "allOf", "anyOf"].any (hasField entries)) = true
  · simp only [object, if_true]
    exact build_object_asks s id node entries name
  simp only [object, Bool.false_eq_true, if_false]
  by_cases array : (isText declared "array" || hasField entries "items") = true
  · simp only [array, if_true]
    exact build_array_asks s id entries name
  simp only [array, Bool.false_eq_true, if_false]
  by_cases union : hasField entries "oneOf" = true
  · simp only [union, if_true]
    exact build_union_asks s id entries name
  simp only [union, Bool.false_eq_true, if_false]
  exact asks_fixed (lasting_kept fun c => build_primitive_kept (idle s c) id node entries name)

end Builders

section Operations

variable (s : Scope) (schemes : List String)

theorem component_asks {fits : Question → Prop} (d : Document) (item : Item) (kind : String) :
    Asks fits fun _ => component? d item kind :=
  asks_fixed (lasting_kept fun c =>
    component_kept (w := ⟨⟨d, []⟩, fun _ _ => throw (.misuse .part), []⟩) (idle ⟨d, []⟩ c) d item kind)

theorem typed_asks (node : Item) (name : Except Fault String) : Asks (Inner s) fun convert =>
    Surroundings.typeRef ⟨s, convert, schemes⟩ node name :=
  asks_bind (except_asks name) fun name => type_ref_asks s node name none

theorem parameter_asks (operation : Except Fault String) (entries : Entries) : Asks (Inner s) fun convert =>
    parameterOf ⟨s, convert, schemes⟩ operation entries := by
  unfold parameterOf
  dsimp only [Surroundings.graph]
  refine asks_bind (except_asks _) fun schema => ?_
  by_cases empty : isNull schema = true
  · simp only [empty, if_true]
    exact asks_bind (warn_asks _) fun _ => asks_pure _
  · simp only [empty, Bool.false_eq_true, if_false]
    cases locationNamed? (declaredLocation entries) with
    | none => exact asks_bind (warn_asks _) fun _ => asks_pure _
    | some location =>
        refine asks_bind (typed_asks s schemes _ _) fun type => ?_
        exact asks_bind (except_asks _) fun p => asks_pure _

theorem merge_asks (sofar : List ((Value × Value) × Entries)) (raws : List Item) :
    Asks (Inner s) fun convert => mergeParameters ⟨s, convert, schemes⟩ sofar raws := by
  induction raws generalizing sofar with
  | nil => exact asks_pure _
  | cons raw rest ih =>
      refine asks_bind (component_asks s.document raw "parameter") fun found => ?_
      cases found with
      | none => exact ih sofar
      | some entries =>
          dsimp only [Surroundings.graph]
          by_cases named : hasField entries "name" = true
          · simp only [named, if_true]
            by_cases keys : ((s.graph.value (fieldOf entries "name")).isKey &&
                (s.graph.value (declaredLocation entries)).isKey) = true
            · simp only [keys, if_true]
              exact ih _
            · simp only [keys, Bool.false_eq_true, if_false]
              exact asks_fixed (lasting_throw _)
          · simp only [named, Bool.false_eq_true, if_false]
            exact ih sofar

theorem request_body_asks (operation : Except Fault String) (raw : Item) : Asks (Inner s) fun convert =>
    requestBodyOf ⟨s, convert, schemes⟩ operation raw := by
  unfold requestBodyOf
  dsimp only [Surroundings.graph]
  refine asks_bind (component_asks s.document raw "request body") fun found => ?_
  cases found with
  | none => exact asks_pure none
  | some body =>
      refine asks_bind (except_asks _) fun media => asks_bind (except_asks _) fun schema => ?_
      by_cases empty : isNull schema = true
      · simp only [empty, if_true]
        exact asks_bind (warn_asks _) fun _ => asks_pure _
      · simp only [empty, Bool.false_eq_true, if_false]
        exact asks_bind (typed_asks s schemes _ _) fun type => asks_map (except_asks _)

theorem body_asks (operation : Except Fault String) (raw : Item) : Asks (Inner s) fun convert =>
    bodyOf ⟨s, convert, schemes⟩ operation raw := by
  unfold bodyOf
  by_cases empty : isNull raw = true
  · simp only [empty, if_true]
    exact asks_pure none
  · simp only [empty, Bool.false_eq_true, if_false]
    exact request_body_asks s schemes operation raw

theorem headers_asks (operation : Except Fault String) (entries : Entries) : Asks (Inner s) fun convert =>
    headersFrom ⟨s, convert, schemes⟩ operation entries := by
  induction entries with
  | nil => exact asks_pure []
  | cons entry rest ih =>
      obtain ⟨name, raw⟩ := entry
      unfold headersFrom
      dsimp only [Surroundings.graph]
      refine asks_bind (component_asks s.document raw "header") fun found => ?_
      by_cases empty : isNull (fieldOf (found.getD []) "schema") = true
      · simp only [empty, if_true]
        exact ih
      · simp only [empty, Bool.false_eq_true, if_false]
        refine asks_bind (typed_asks s schemes _ _) fun type => asks_bind (except_asks _) fun h => ?_
        exact asks_bind ih fun more => asks_pure _

theorem schema_type_asks (schema : Item) (name : Except Fault String) : Asks (Inner s) fun convert =>
    schemaTypeOf ⟨s, convert, schemes⟩ schema name := by
  unfold schemaTypeOf
  by_cases empty : isNull schema = true
  · simp only [empty, if_true]
    exact asks_pure none
  · simp only [empty, Bool.false_eq_true, if_false]
    exact asks_map (typed_asks s schemes schema name)

theorem typed_response_asks (operation : Except Fault String) (status : String) (entries : Entries)
    (media : Option (Scalar × Item)) (errors : List ErrorDefinition) (type : Option TypeRef) :
    Asks (Inner s) fun convert =>
      typedResponse ⟨s, convert, schemes⟩ operation status entries media errors type := by
  unfold typedResponse
  dsimp only [Surroundings.graph]
  refine asks_bind (except_asks _) fun listed => ?_
  refine asks_bind (headers_asks s schemes operation listed) fun headers => ?_
  refine asks_bind (except_asks _) fun code => asks_bind (except_asks _) fun errors => ?_
  exact asks_bind (except_asks _) fun r => asks_pure _

theorem response_asks (operation : Except Fault String) (status : String) (raw : Item)
    (errors : List ErrorDefinition) : Asks (Inner s) fun convert =>
      responseOf ⟨s, convert, schemes⟩ operation status raw errors := by
  unfold responseOf
  dsimp only [Surroundings.graph]
  refine asks_bind (component_asks s.document raw "response") fun found => ?_
  cases found with
  | none => exact asks_pure _
  | some entries =>
      refine asks_bind (except_asks _) fun media => asks_bind (except_asks _) fun schema => ?_
      refine asks_bind (schema_type_asks s schemes schema _) fun type => ?_
      exact typed_response_asks s schemes operation status entries media errors type

theorem responses_asks (operation : Except Fault String) (errors : List ErrorDefinition) (entries : Entries) :
    Asks (Inner s) fun convert => responsesFrom ⟨s, convert, schemes⟩ operation errors entries := by
  induction entries generalizing errors with
  | nil => exact asks_pure _
  | cons entry rest ih =>
      obtain ⟨status, raw⟩ := entry
      refine asks_bind (except_asks _) fun shownStatus => ?_
      refine asks_bind (response_asks s schemes operation _ raw errors) fun first => ?_
      exact asks_bind (ih _) fun more => asks_pure _

theorem endpoint_asks (path : Scalar) (method : Method) (operation : Entries) (shared : Item)
    (errors : List ErrorDefinition) : Asks (Inner s) fun convert =>
      endpointOf ⟨s, convert, schemes⟩ path method operation shared errors := by
  unfold endpointOf
  dsimp only [Surroundings.graph]
  refine asks_bind (except_asks _) fun idItem => ?_
  refine asks_bind (except_asks _) fun outer => asks_bind (except_asks _) fun inner => ?_
  refine asks_bind (merge_asks s schemes [] _) fun merged => ?_
  refine asks_bind (asks_each merged fun entries => parameter_asks s schemes _ entries) fun parameters => ?_
  refine asks_bind (body_asks s schemes _ _) fun body => asks_bind (except_asks _) fun answers => ?_
  refine asks_bind (responses_asks s schemes _ errors answers) fun responses => ?_
  refine asks_bind (except_asks _) fun requirements => ?_
  refine asks_bind (except_asks _) fun authentication => ?_
  refine asks_bind (except_asks _) fun shownPath => asks_bind (except_asks _) fun streaming => ?_
  refine asks_bind (except_asks _) fun tags => asks_bind (except_asks _) fun e => asks_pure _

theorem operations_asks (path : Scalar) (shared : Item) (errors : List ErrorDefinition)
    (entries : Entries) : Asks (Inner s) fun convert =>
      operationsFrom ⟨s, convert, schemes⟩ path shared errors entries := by
  induction entries generalizing errors with
  | nil => exact asks_pure _
  | cons entry rest ih =>
      obtain ⟨name, node⟩ := entry
      refine asks_bind (except_asks _) fun method => ?_
      dsimp only [Surroundings.graph]
      cases method with
      | none => exact ih errors
      | some method =>
          cases s.graph.entries? node with
          | none => exact ih errors
          | some operation =>
              refine asks_bind (endpoint_asks s schemes path method operation shared errors) fun first => ?_
              exact asks_bind (ih _) fun more => asks_pure _

theorem endpoints_asks (errors : List ErrorDefinition) (entries : Entries) :
    Asks (Inner s) fun convert => endpointsFrom ⟨s, convert, schemes⟩ errors entries := by
  induction entries generalizing errors with
  | nil => exact asks_pure _
  | cons entry rest ih =>
      obtain ⟨path, node⟩ := entry
      unfold endpointsFrom
      dsimp only [Surroundings.graph]
      cases s.graph.entries? (target s.document node) with
      | none => exact ih errors
      | some entries =>
          refine asks_bind (operations_asks s schemes path _ errors entries) fun first => ?_
          exact asks_bind (ih _) fun more => asks_pure _

end Operations

def convertBy (convert : Convert) (d : Document) (options : FrontendOptions) : Conversion Schema := do
  let g := d.graph
  let root := (g.entries? d.root).getD []
  let components ← ofExcept (entriesOrNone g (fieldOf root "components"))
  convertComponents convert (← ofExcept (entriesOrNone g (fieldOf components "schemas")))
  let schemes ← ofExcept (entriesOrNone g (fieldOf components "securitySchemes"))
  let authentication ← schemesFrom ⟨d, []⟩ schemes
  let paths ← ofExcept (entriesOrNone g (fieldOf root "paths"))
  let (endpoints, errors) ← endpointsFrom ⟨⟨d, []⟩, convert, authentication.map (·.id)⟩ [] paths
  let metadata ← ofExcept (metadataOf g root options)
  let types ← ofExcept (← get).types
  return { metadata, types, endpoints, authentication, errors := errors.foldr insertError [] }

theorem convert_by_nodes (d : Document) (options : FrontendOptions) :
    convert d options = convertBy (convertNode d) d options := rfl

theorem components_ask (d : Document) (entries : Entries) :
    Asks (Inner ⟨d, []⟩) fun convert => convertComponents convert entries := by
  induction entries with
  | nil => exact asks_pure ()
  | cons entry rest ih =>
      obtain ⟨key, node⟩ := entry
      refine asks_bind (except_asks _) fun name => ?_
      exact asks_bind (asks_convert (node_inner ⟨d, []⟩ _ _ _ _)) fun _ => ih

theorem convert_asks (d : Document) (options : FrontendOptions) :
    Asks (Inner ⟨d, []⟩) fun convert => convertBy convert d options := by
  unfold convertBy
  refine asks_bind (except_asks _) fun components => asks_bind (except_asks _) fun schemas => ?_
  refine asks_bind (components_ask d schemas) fun _ => asks_bind (except_asks _) fun schemes => ?_
  refine asks_bind (asks_fixed (lasting_kept fun c => schemes_from_kept (idle ⟨d, []⟩ c) schemes))
    fun authentication => ?_
  refine asks_bind (except_asks _) fun paths => ?_
  refine asks_bind (endpoints_asks ⟨d, []⟩ _ [] paths) fun found => ?_
  refine asks_bind (except_asks _) fun metadata => ?_
  exact asks_fixed fun c => by
    rw [types_run]
    exact recalls_refl c

end ApiSchema.OpenApi
