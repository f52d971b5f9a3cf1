import ApiSchema.Proofs.OpenApi.Asking
import ApiSchema.Proofs.OpenApi.DroppedTypes

namespace ApiSchema.OpenApi

section Parts

variable {d e : Document} {n : Nat} {k : String} {see : Option Constraints → Option Constraints}
variable {role : Role} {item : Item} {entries entries' : Entries}

-- A field of data is data.
theorem data_field (acts : Acts e .data item) (map : e.graph.entries? item = some entries) (name : String) :
    Acts e .data (fieldOf entries name) := by
  obtain ⟨id, rfl, held⟩ := entries_cell map
  obtain none_ | inside := field_inside entries name
  · rw [none_]
    exact .scalar _ _
  · exact acts_each acts held rfl inside

theorem component_in_step (drops : Drops d e n k) (follows : role.follows = true)
    (referring : ("$ref", .data) ∈ role.fields) (acts : Acts e role item) (kind : String) :
    InStep (Matched see (Noted d n k)) (component? e item kind) (component? d item kind)
      (Option.Rel (Spared d e role)) := by
  obtain ⟨same, there⟩ := target_alike drops follows acts
  unfold component?
  rw [same]
  obtain ⟨none_, none'⟩ | ⟨fields, fields', map, map', inner⟩ := map_cases drops there
  · rw [none_, none']
    refine in_step_on ?_ fun _ => in_step_pure .none
    obtain ⟨none_, none'⟩ | ⟨fields, fields', map, map', inner⟩ := map_cases drops acts
    · rw [none_, none']
      exact in_step_note_issue _
    · simp only [map, map', brokenReference, field_alike drops inner "$ref" (by decide),
        shown_alike drops (spared_acts inner referring)]
      exact in_step_note_issue _
  · rw [map, map']
    exact in_step_pure (.some inner)

theorem media_alike (drops : Drops d e n k) (acts : Acts e .content item) :
    Agreed (fun media media' => media' = media ∧ ∀ entry ∈ media, Acts e .media entry.2)
      (pickMedia e.graph item) (pickMedia d.graph item) := by
  have same : pickMedia d.graph item = pickMedia e.graph item := by
    unfold pickMedia
    rw [truthy_alike drops acts rfl, entries_of_same (of_whole drops acts rfl), of_whole drops acts rfl]
  have picked : ∀ media, pickMedia e.graph item = .ok media → ∀ entry ∈ media, Acts e .media entry.2 := by
    intro media read entry member
    unfold pickMedia at read
    extract_lets json at read
    split at read
    · cases read
      cases member
    · split at read
      next fields map =>
        obtain ⟨id, rfl, held⟩ := entries_cell map
        split at read
        next found =>
          cases read
          cases member
          exact acts_each acts held rfl (Pointer.lookup_member found)
        next =>
          cases read
          exact acts_each acts held rfl (List.mem_map_of_mem (List.mem_of_head? member))
      next =>
        split at read
        all_goals first | cases read | (split at read <;> cases read)
  rw [same]
  cases read : pickMedia e.graph item with
  | ok media => exact .ok ⟨rfl, picked media read⟩
  | error f => exact .error f

theorem media_schema_field {g : Graph} {fields : Entries} (name : Scalar)
    (map : g.entries? item = some fields) :
    mediaSchema g (some (name, item)) = .ok (fieldOf fields "schema") := by
  unfold mediaSchema
  simp only
  split
  · unfold entriesOf
    rw [map]
    rfl
  next empty =>
    have falsy : g.truthy item = false := by simpa using empty
    have none_ := empty_entries falsy
    rw [map] at none_
    cases none_
    rfl

theorem media_schema_alike (drops : Drops d e n k) {media : Option (Scalar × Item)}
    (acts : ∀ entry ∈ media, Acts e .media entry.2) :
    Agreed (fun schema schema' => schema' = schema ∧ Acts e .schema schema) (mediaSchema e.graph media)
      (mediaSchema d.graph media) := by
  cases media with
  | none => exact .ok ⟨rfl, .scalar _ _⟩
  | some entry =>
      obtain ⟨name, node⟩ := entry
      have acts : Acts e .media node := acts _ rfl
      obtain ⟨none_, none'⟩ | ⟨fields, fields', map, map', inner⟩ := map_cases drops acts
      · have other : node ≠ .node n := by
          rintro rfl
          obtain ⟨held, is, is'⟩ := drops.lacks.node
          simp [Graph.entries?, Graph.of?, is'] at none_
        have same : d.graph.truthy node = e.graph.truthy node := by
          unfold Graph.truthy
          rw [of_elsewhere drops acts other]
        unfold mediaSchema entriesOf
        simp only [same, none_, none']
        split
        · exact .error _
        · exact .ok ⟨rfl, .scalar _ _⟩
      · rw [media_schema_field name map, media_schema_field name map', field_alike drops inner _ (by decide)]
        exact .ok ⟨rfl, spared_acts inner (by decide)⟩

theorem parameter_schema_alike (drops : Drops d e n k) (spared : Spared d e .parameter entries entries') :
    Agreed (fun schema schema' => schema' = schema ∧ Acts e .schema schema) (parameterSchema e.graph entries)
      (parameterSchema d.graph entries') := by
  have schema := spared_acts spared (by decide : ("schema", .schema) ∈ Role.parameter.fields)
  have content := spared_acts spared (by decide : ("content", .content) ∈ Role.parameter.fields)
  unfold parameterSchema
  rw [field_alike drops spared "schema" (by decide),
    field_alike drops spared "content" (by decide)]
  dsimp only
  split
  · refine agreed_bind (media_alike drops content) fun media _ held => ?_
    obtain ⟨rfl, acts⟩ := held
    exact media_schema_alike drops acts
  · exact .ok ⟨rfl, schema⟩

end Parts

section Operations

variable {d e : Document} {n : Nat} {k : String} {see : Option Constraints → Option Constraints}
variable {convert convert' : Convert} {trail schemes : List String} {entries entries' : Entries}

theorem typed_in_step (drops : Drops d e n k) (answered : Answered d e n k see convert convert')
    {node : Item} (acts : Acts e .schema node) (name : Except Fault String) :
    InStep (Matched see (Noted d n k)) (Surroundings.typeRef ⟨⟨e, trail⟩, convert, schemes⟩ node name)
      (Surroundings.typeRef ⟨⟨d, trail⟩, convert', schemes⟩ node name) Eq :=
  in_step_on (in_step_of_except (agreed_same name)) fun name => type_ref_in_step drops answered acts name none

theorem schema_type_in_step (drops : Drops d e n k) (answered : Answered d e n k see convert convert')
    {schema : Item} (acts : Acts e .schema schema) (name : Except Fault String) :
    InStep (Matched see (Noted d n k)) (schemaTypeOf ⟨⟨e, trail⟩, convert, schemes⟩ schema name)
      (schemaTypeOf ⟨⟨d, trail⟩, convert', schemes⟩ schema name) Eq :=
  in_step_ite (in_step_pure rfl) (in_step_mapped some (typed_in_step drops answered acts name))

theorem parameter_in_step (drops : Drops d e n k) (answered : Answered d e n k see convert convert')
    (operation : Except Fault String) (spared : Spared d e .parameter entries entries') :
    InStep (Matched see (Noted d n k)) (parameterOf ⟨⟨e, trail⟩, convert, schemes⟩ operation entries)
      (parameterOf ⟨⟨d, trail⟩, convert', schemes⟩ operation entries') Eq := by
  have name := spared_acts spared (by decide : ("name", .data) ∈ Role.parameter.fields)
  have required := spared_acts spared (by decide : ("required", .data) ∈ Role.parameter.fields)
  have place := spared_acts spared (by decide : ("in", .data) ∈ Role.parameter.fields)
  unfold parameterOf declaredLocation
  dsimp only [Surroundings.graph, Scope.graph]
  rw [lookup_alike drops spared _ (by decide),
    field_alike drops spared "name" (by decide),
    field_alike drops spared "in" (by decide),
    field_alike drops spared "required" (by decide),
    notes_alike drops spared (by decide) (by decide), shown_alike drops name, shown_alike drops place,
    truthy_alike drops required rfl, value_alike drops name]
  refine in_step_bind (in_step_of_except (parameter_schema_alike drops spared)) fun _ schema held => ?_
  obtain ⟨rfl, acts⟩ := held
  split
  · exact in_step_on (in_step_warn_of _) fun _ => in_step_pure rfl
  · split
    · exact in_step_on (in_step_warn_of _) fun _ => in_step_pure rfl
    next location _ =>
      obtain ⟨same, there⟩ := target_alike drops rfl acts
      rw [same, default_alike drops (entries_spared_or_none drops there)]
      refine in_step_on (typed_in_step drops answered acts _) fun type => ?_
      exact in_step_on (in_step_of_except (agreed_same _)) fun p => in_step_pure rfl

def Slotted (d e : Document) (a b : (Value × Value) × Entries) : Prop :=
  b.1 = a.1 ∧ Spared d e .parameter a.2 b.2

theorem put_slotted {sofar sofar' : List ((Value × Value) × Entries)} {key : Value × Value}
    (alike : List.Forall₂ (Slotted d e) sofar sofar') (spared : Spared d e .parameter entries entries') :
    List.Forall₂ (Slotted d e) (putParameter sofar key entries) (putParameter sofar' key entries') := by
  induction alike with
  | nil => exact .cons ⟨rfl, spared⟩ .nil
  | @cons a b _ _ held others ih =>
      obtain ⟨ka, ea⟩ := a
      obtain ⟨kb, eb⟩ := b
      obtain ⟨rfl, inner⟩ : kb = ka ∧ Spared d e .parameter ea eb := held
      unfold putParameter
      split
      · exact .cons ⟨rfl, spared⟩ others
      · exact .cons ⟨rfl, inner⟩ ih

theorem merge_in_step (drops : Drops d e n k) {sofar sofar' : List ((Value × Value) × Entries)}
    (alike : List.Forall₂ (Slotted d e) sofar sofar') (raws : List Item)
    (acts : ∀ raw ∈ raws, Acts e .parameter raw) :
    InStep (Matched see (Noted d n k)) (mergeParameters ⟨⟨e, trail⟩, convert, schemes⟩ sofar raws)
      (mergeParameters ⟨⟨d, trail⟩, convert', schemes⟩ sofar' raws)
      (List.Forall₂ (Spared d e .parameter)) := by
  induction raws generalizing sofar sofar' with
  | nil =>
      refine in_step_pure ?_
      rw [List.forall₂_map_left_iff, List.forall₂_map_right_iff]
      exact alike.imp fun _ _ held => held.2
  | cons raw rest ih =>
      have later {sofar sofar'} (alike : List.Forall₂ (Slotted d e) sofar sofar') :=
        ih alike fun raw member => acts raw (List.mem_cons_of_mem _ member)
      unfold mergeParameters
      dsimp only [Surroundings.graph, Scope.graph]
      refine in_step_bind (component_in_step drops rfl (by decide) (acts raw (by simp)) "parameter")
        fun found found' held => ?_
      cases held with
      | none => exact later alike
      | @some fields fields' spared =>
          have place :
              d.graph.value (declaredLocation fields') = e.graph.value (declaredLocation fields) := by
            have acts := spared_acts spared (by decide : ("in", .data) ∈ Role.parameter.fields)
            unfold fieldOf at acts
            unfold declaredLocation
            rw [lookup_alike drops spared _ (by decide)]
            cases found : lookup? fields (.text "in") with
            | none => rfl
            | some place =>
                rw [found] at acts
                exact value_alike drops acts
          simp only [has_alike drops spared "name" (by decide), place,
            plain_alike drops spared "name" (by decide) (by decide)]
          refine in_step_ite (in_step_ite (later (put_slotted alike spared)) (in_step_throw _)) (later alike)

theorem body_in_step (drops : Drops d e n k) (answered : Answered d e n k see convert convert')
    (operation : Except Fault String) {raw : Item} (acts : Acts e .body raw) :
    InStep (Matched see (Noted d n k)) (requestBodyOf ⟨⟨e, trail⟩, convert, schemes⟩ operation raw)
      (requestBodyOf ⟨⟨d, trail⟩, convert', schemes⟩ operation raw) Eq := by
  unfold requestBodyOf
  dsimp only [Surroundings.graph, Scope.graph]
  refine in_step_bind (component_in_step drops rfl (by decide) acts "request body")
    fun found found' held => ?_
  cases held with
  | none => exact in_step_pure rfl
  | @some fields fields' spared =>
      have content := spared_acts spared (by decide : ("content", .content) ∈ Role.body.fields)
      have required := spared_acts spared (by decide : ("required", .data) ∈ Role.body.fields)
      simp only [field_alike drops spared "content" (by decide),
        field_alike drops spared "required" (by decide),
        truthy_alike drops required rfl,
        plain_alike drops spared "description" (by decide) (by decide)]
      refine in_step_bind (in_step_of_except (media_alike drops content)) fun _ media held => ?_
      obtain ⟨rfl, inner⟩ := held
      refine in_step_bind (in_step_of_except (media_schema_alike drops inner)) fun _ schema held => ?_
      obtain ⟨rfl, acts⟩ := held
      split
      · exact in_step_on (in_step_warn_of _) fun _ => in_step_pure rfl
      · refine in_step_on (typed_in_step drops answered acts _) fun type => ?_
        exact in_step_mapped _ (in_step_of_except (agreed_same _))

theorem asked_body_in_step (drops : Drops d e n k) (answered : Answered d e n k see convert convert')
    (operation : Except Fault String) {raw : Item} (acts : Acts e .body raw) :
    InStep (Matched see (Noted d n k)) (bodyOf ⟨⟨e, trail⟩, convert, schemes⟩ operation raw)
      (bodyOf ⟨⟨d, trail⟩, convert', schemes⟩ operation raw) Eq :=
  in_step_ite (in_step_pure rfl) (body_in_step drops answered operation acts)

theorem headers_in_step (drops : Drops d e n k) (answered : Answered d e n k see convert convert')
    (operation : Except Fault String) (listed : Entries) (acts : ∀ entry ∈ listed, Acts e .header entry.2) :
    InStep (Matched see (Noted d n k)) (headersFrom ⟨⟨e, trail⟩, convert, schemes⟩ operation listed)
      (headersFrom ⟨⟨d, trail⟩, convert', schemes⟩ operation listed) Eq := by
  induction listed with
  | nil => exact in_step_pure rfl
  | cons entry rest ih =>
      obtain ⟨name, raw⟩ := entry
      have later := ih fun entry member => acts entry (List.mem_cons_of_mem _ member)
      unfold headersFrom
      dsimp only [Surroundings.graph, Scope.graph]
      refine in_step_bind (component_in_step drops rfl (by decide) (acts (name, raw) (by simp)) "header")
        fun found found' held => ?_
      have spared : Spared d e .header (found.getD []) (found'.getD []) := by
        cases held with
        | none => exact .nothing
        | some inner => exact inner
      have schema := spared_acts spared (by decide : ("schema", .schema) ∈ Role.header.fields)
      have required := spared_acts spared (by decide : ("required", .data) ∈ Role.header.fields)
      simp only [field_alike drops spared "schema" (by decide),
        field_alike drops spared "required" (by decide),
        truthy_alike drops required rfl,
        plain_alike drops spared "description" (by decide) (by decide)]
      refine in_step_ite later ?_
      refine in_step_on (typed_in_step drops answered schema _) fun type => ?_
      refine in_step_on (in_step_of_except (agreed_same _)) fun h => ?_
      exact in_step_on later fun headers => in_step_pure rfl

theorem register_alike (drops : Drops d e n k) (errors : List ErrorDefinition) (code : Int)
    (spared : Spared d e .response entries entries') (type : Option TypeRef) :
    registerError d.graph errors code entries' type = registerError e.graph errors code entries type := by
  have acts := spared_acts spared (by decide : ("description", .data) ∈ Role.response.fields)
  simp only [registerError, field_alike drops spared "description" (by decide),
    truthy_alike drops acts rfl, value_alike drops acts]

theorem known_errors_alike (drops : Drops d e n k) (errors : List ErrorDefinition) (code : Status)
    (spared : Spared d e .response entries entries') (type : Option TypeRef) :
    knownErrors d.graph errors code entries' type = knownErrors e.graph errors code entries type := by
  unfold knownErrors
  split
  · exact register_alike drops errors _ spared type
  · rfl

theorem typed_response_in_step (drops : Drops d e n k) (answered : Answered d e n k see convert convert')
    (operation : Except Fault String) (status : String) (spared : Spared d e .response entries entries')
    (media : Option (Scalar × Item)) (errors : List ErrorDefinition) (type : Option TypeRef) :
    InStep (Matched see (Noted d n k))
      (typedResponse ⟨⟨e, trail⟩, convert, schemes⟩ operation status entries media errors type)
      (typedResponse ⟨⟨d, trail⟩, convert', schemes⟩ operation status entries' media errors type) Eq := by
  have headers := spared_acts spared (by decide : ("headers", .headers) ∈ Role.response.fields)
  unfold typedResponse
  dsimp only [Surroundings.graph, Scope.graph]
  simp only [field_alike drops spared "headers" (by decide),
    plain_alike drops spared "description" (by decide) (by decide),
    known_errors_alike drops _ _ spared]
  refine in_step_bind (in_step_of_except (table_alike drops headers rfl)) fun _ listed held => ?_
  obtain ⟨rfl, acts⟩ := held
  refine in_step_on (headers_in_step drops answered operation listed acts) fun headers => ?_
  refine in_step_on (in_step_of_except (agreed_same _)) fun code => ?_
  refine in_step_on (in_step_of_except (agreed_same _)) fun errors => ?_
  exact in_step_on (in_step_of_except (agreed_same _)) fun r => in_step_pure rfl

theorem response_in_step (drops : Drops d e n k) (answered : Answered d e n k see convert convert')
    (operation : Except Fault String) (status : String) {raw : Item} (acts : Acts e .response raw)
    (errors : List ErrorDefinition) :
    InStep (Matched see (Noted d n k)) (responseOf ⟨⟨e, trail⟩, convert, schemes⟩ operation status raw errors)
      (responseOf ⟨⟨d, trail⟩, convert', schemes⟩ operation status raw errors) Eq := by
  unfold responseOf
  dsimp only [Surroundings.graph, Scope.graph]
  refine in_step_bind (component_in_step drops rfl (by decide) acts "response") fun found found' held => ?_
  cases held with
  | none => exact in_step_pure rfl
  | @some fields fields' spared =>
      have content := spared_acts spared (by decide : ("content", .content) ∈ Role.response.fields)
      simp only [field_alike drops spared "content" (by decide)]
      refine in_step_bind (in_step_of_except (media_alike drops content)) fun _ media held => ?_
      obtain ⟨rfl, inner⟩ := held
      refine in_step_bind (in_step_of_except (media_schema_alike drops inner)) fun _ schema held => ?_
      obtain ⟨rfl, acts⟩ := held
      refine in_step_on (schema_type_in_step drops answered acts _) fun type => ?_
      exact typed_response_in_step drops answered operation status spared media errors type

theorem responses_in_step (drops : Drops d e n k) (answered : Answered d e n k see convert convert')
    (operation : Except Fault String) (errors : List ErrorDefinition) (listed : Entries)
    (acts : ∀ entry ∈ listed, Acts e .response entry.2) :
    InStep (Matched see (Noted d n k)) (responsesFrom ⟨⟨e, trail⟩, convert, schemes⟩ operation errors listed)
      (responsesFrom ⟨⟨d, trail⟩, convert', schemes⟩ operation errors listed) Eq := by
  induction listed generalizing errors with
  | nil => exact in_step_pure rfl
  | cons entry rest ih =>
      obtain ⟨status, raw⟩ := entry
      refine in_step_on (in_step_of_except (agreed_same _)) fun shownStatus => ?_
      refine in_step_on (response_in_step drops answered operation _ (acts (status, raw) (by simp)) errors)
        fun first => ?_
      refine in_step_on (ih _ fun entry member => acts entry (List.mem_cons_of_mem _ member)) fun more => ?_
      exact in_step_pure rfl

theorem add_schemes_alike (drops : Drops d e n k) (operation : Except Fault String) (sofar : List String)
    (items : List Item) (acts : ∀ item ∈ items, Acts e .data item) :
    addSchemes d.graph operation schemes sofar items = addSchemes e.graph operation schemes sofar items := by
  induction items generalizing sofar with
  | nil => rfl
  | cons item rest ih =>
      have later := fun sofar => ih sofar fun item member => acts item (List.mem_cons_of_mem _ member)
      have here := acts item (by simp)
      simp only [addSchemes, key_alike drops here, shown_alike drops here, later]

theorem authentication_alike (drops : Drops d e n k) (operation : Except Fault String) (sofar : List String)
    (items : List Item) (acts : ∀ item ∈ items, Acts e .data item) :
    Agreed Eq (authenticationOf e.graph operation schemes sofar items)
      (authenticationOf d.graph operation schemes sofar items) := by
  induction items generalizing sofar with
  | nil => exact .ok rfl
  | cons item rest ih =>
      refine agreed_bind (items_or_none_alike drops (acts item (by simp)) rfl) fun _ named held => ?_
      obtain ⟨rfl, inner⟩ := held
      rw [add_schemes_alike drops operation sofar named inner]
      refine agreed_bind (agreed_same _) fun sofar _ same => same ▸ ?_
      exact ih sofar fun item member => acts item (List.mem_cons_of_mem _ member)

theorem tags_alike (drops : Drops d e n k) {tags : Item} (acts : Acts e .data tags) :
    tagsOf d.graph tags = tagsOf e.graph tags := by
  unfold tagsOf
  rw [truthy_alike drops acts rfl]
  split
  · have read := items_of_alike drops acts rfl
    generalize itemsOf e.graph tags = mine at read ⊢
    generalize itemsOf d.graph tags = other at read ⊢
    cases read with
    | error f => rfl
    | ok held =>
        obtain ⟨rfl, each⟩ := held
        exact congrArg (fun values => Except.ok (Value.list values))
          (List.map_congr_left fun item member => value_alike drops (each item member))
  · rfl

theorem streaming_alike (drops : Drops d e n k) (spared : Spared d e .operation entries entries') :
    streamingOf d.graph entries' = streamingOf e.graph entries := by
  have part {item : Item} (acts : Acts e .data item) :
      partMentionsStream d.graph item = partMentionsStream e.graph item := by
    unfold partMentionsStream
    split
    · rfl
    · rfl
    · rw [truthy_alike drops acts rfl]
  unfold streamingOf
  rw [field_alike drops spared "description" (by decide),
    field_alike drops spared "summary" (by decide),
    part (spared_acts spared (by decide)), part (spared_acts spared (by decide))]

theorem operation_id_alike (drops : Drops d e n k) (method : Method) (path : Scalar)
    (spared : Spared d e .operation entries entries') :
    Agreed (fun item item' => item' = item ∧ Acts e .data item) (operationIdOf e.graph method path entries)
      (operationIdOf d.graph method path entries') := by
  have acts := spared_acts spared (by decide : ("operationId", .data) ∈ Role.operation.fields)
  unfold operationIdOf
  rw [field_alike drops spared _ (by decide)]
  dsimp only
  rw [truthy_alike drops acts rfl]
  split
  · exact .ok ⟨rfl, acts⟩
  · cases path with
    | text p => exact .ok ⟨rfl, .scalar _ _⟩
    | _ => exact .error _

-- What an operation asks for, or the document as a whole where the operation says nothing.
theorem security_alike (drops : Drops d e n k) (spared : Spared d e .operation entries entries') :
    let security := (lookup? entries (.text "security")).getD
      (fieldOf ((e.graph.entries? e.root).getD []) "security")
    (lookup? entries' (.text "security")).getD
        (fieldOf ((d.graph.entries? d.root).getD []) "security") = security ∧ Acts e .data security := by
  have root := entries_spared_or_none drops .root
  have own := spared_acts spared (by decide : ("security", .data) ∈ Role.operation.fields)
  rw [lookup_alike drops spared _ (by decide), drops.lacks.root, field_alike drops root _ (by decide)]
  refine ⟨rfl, ?_⟩
  unfold fieldOf at own
  cases found : lookup? entries (.text "security") with
  | none => exact spared_acts root (by decide)
  | some item =>
      rw [found] at own
      exact own

theorem endpoint_in_step (drops : Drops d e n k) (answered : Answered d e n k see convert convert')
    (path : Scalar) (method : Method) (spared : Spared d e .operation entries entries') {shared : Item}
    (acts : Acts e .parameters shared) (errors : List ErrorDefinition) :
    InStep (Matched see (Noted d n k))
      (endpointOf ⟨⟨e, []⟩, convert, schemes⟩ path method entries shared errors)
      (endpointOf ⟨⟨d, []⟩, convert', schemes⟩ path method entries' shared errors) Eq := by
  have own := spared_acts spared (by decide : ("parameters", .parameters) ∈ Role.operation.fields)
  have body := spared_acts spared (by decide : ("requestBody", .body) ∈ Role.operation.fields)
  have answers := spared_acts spared (by decide : ("responses", .responses) ∈ Role.operation.fields)
  have tags := spared_acts spared (by decide : ("tags", .data) ∈ Role.operation.fields)
  obtain ⟨same, security⟩ := security_alike drops spared
  unfold endpointOf
  dsimp only [Surroundings.graph, Scope.graph]
  simp only [same, streaming_alike drops spared, notes_alike drops spared (by decide) (by decide),
    field_alike drops spared "parameters" (by decide),
    field_alike drops spared "requestBody" (by decide),
    field_alike drops spared "responses" (by decide),
    field_alike drops spared "tags" (by decide), tags_alike drops tags,
    plain_alike drops spared "summary" (by decide) (by decide)]
  refine in_step_bind (in_step_of_except (operation_id_alike drops method path spared))
    fun _ idItem held => ?_
  obtain ⟨rfl, named⟩ := held
  rw [shown_alike drops named, value_alike drops named]
  refine in_step_bind (in_step_of_except (items_or_none_alike drops acts rfl)) fun _ outer held => ?_
  obtain ⟨rfl, first⟩ := held
  refine in_step_bind (in_step_of_except (items_or_none_alike drops own rfl)) fun _ inner held => ?_
  obtain ⟨rfl, second⟩ := held
  have declared : ∀ raw ∈ outer ++ inner, Acts e .parameter raw :=
    fun raw member => (List.mem_append.mp member).elim (first raw) (second raw)
  refine in_step_bind (merge_in_step drops .nil _ declared) fun merged merged' held => ?_
  refine in_step_bind (in_step_each held fun _ _ spared => parameter_in_step drops answered _ spared)
    fun parameters _ same => ?_
  rw [List.forall₂_eq_eq_eq] at same
  subst same
  refine in_step_on (asked_body_in_step drops answered _ body) fun body => ?_
  refine in_step_bind (in_step_of_except (table_alike drops answers rfl)) fun _ answers held => ?_
  obtain ⟨rfl, acts⟩ := held
  refine in_step_on (responses_in_step drops answered _ errors answers acts) fun responses => ?_
  refine in_step_bind (in_step_of_except (items_or_none_alike drops security rfl))
    fun _ requirements held => ?_
  obtain ⟨rfl, acts⟩ := held
  refine in_step_on (in_step_of_except (authentication_alike drops _ [] requirements acts))
    fun authentication => ?_
  refine in_step_on (in_step_of_except (agreed_same _)) fun shownPath => ?_
  refine in_step_on (in_step_of_except (agreed_same _)) fun streaming => ?_
  refine in_step_on (in_step_of_except (agreed_same _)) fun tags => ?_
  exact in_step_on (in_step_of_except (agreed_same _)) fun made => in_step_pure rfl

-- A keyword is no method.
theorem keyword_no_method (known : k ∈ keywords.map Prod.fst) : methodNamed? (.text k) = .ok none :=
  congrArg Except.ok ((by decide +kernel : ∀ k ∈ keywords.map Prod.fst,
    (Method.all.find? fun m => Text.lowerText m.name == Text.lowerText k) = none) k known)

-- The entries of a path that are no operations may be more in the one document.
theorem operations_in_step (drops : Drops d e n k) (answered : Answered d e n k see convert convert')
    (path : Scalar) {shared : Item} (acts : Acts e .parameters shared) (errors : List ErrorDefinition)
    {listed listed' : Entries} (kept : Scalar × Item → Bool) (less : listed'.filter kept = listed)
    (dropped : ∀ entry ∈ listed', kept entry = false → methodNamed? entry.1 = .ok none)
    (each : ∀ entry ∈ listed, ∀ method, methodNamed? entry.1 = .ok (some method) → Acts e .operation entry.2) :
    InStep (Matched see (Noted d n k))
      (operationsFrom ⟨⟨e, []⟩, convert, schemes⟩ path shared errors listed)
      (operationsFrom ⟨⟨d, []⟩, convert', schemes⟩ path shared errors listed') Eq := by
  subst less
  induction listed' generalizing errors with
  | nil => exact in_step_pure rfl
  | cons entry rest ih =>
      obtain ⟨name, node⟩ := entry
      have later := fun errors => ih errors
        (fun entry member => dropped entry (List.mem_cons_of_mem _ member))
        fun entry member => each entry (List.mem_filter.mpr
          ⟨List.mem_cons_of_mem _ (List.mem_filter.mp member).1, (List.mem_filter.mp member).2⟩)
      -- An entry that only one document has is no operation, and that document passes over it alone.
      cases keeps : kept (name, node) with
      | false =>
          have none_ := dropped (name, node) (by simp) keeps
          rw [List.filter_cons_of_neg (by simp [keeps]), operationsFrom]
          simp only at none_
          rw [none_]
          exact later errors
      | true =>
          rw [List.filter_cons_of_pos keeps, operationsFrom, operationsFrom]
          have here := each (name, node) (by rw [List.filter_cons_of_pos keeps]; simp)
          simp only at here
          cases named : methodNamed? name with
          | error f => exact in_step_throw f
          | ok found =>
              have known : InStep (Matched see (Noted d n k))
                  (ofExcept (.ok found) : Conversion (Option Method)) (ofExcept (.ok found))
                  fun one two => one = found ∧ two = found := in_step_pure ⟨rfl, rfl⟩
              refine in_step_bind known fun one two both => ?_
              rw [both.1, both.2]
              dsimp only [Surroundings.graph, Scope.graph]
              cases found with
              | none => exact later errors
              | some method =>
                  obtain ⟨none_, none'⟩ | ⟨fields, fields', map, map', spared⟩ :=
                    map_cases drops (here method named)
                  · rw [none_, none']
                    exact later errors
                  · rw [map, map']
                    refine in_step_on (endpoint_in_step drops answered path method spared acts errors)
                      fun first => ?_
                    exact in_step_on (later _) fun more => in_step_pure rfl

theorem path_in_step (drops : Drops d e n k) (answered : Answered d e n k see convert convert')
    (path : Scalar) (spared : Spared d e .path entries entries') (errors : List ErrorDefinition) :
    InStep (Matched see (Noted d n k))
      (operationsFrom ⟨⟨e, []⟩, convert, schemes⟩ path (fieldOf entries "parameters") errors entries)
      (operationsFrom ⟨⟨d, []⟩, convert', schemes⟩ path (fieldOf entries' "parameters") errors
        entries') Eq := by
  have shared := spared_acts spared (by decide : ("parameters", .parameters) ∈ Role.path.fields)
  have each : ∀ entry ∈ entries, ∀ method, methodNamed? entry.1 = .ok (some method) →
      Acts e .operation entry.2 := by
    rintro ⟨name, node⟩ member method named
    cases spared with
    | nothing => cases member
    | read acts map _ =>
        obtain ⟨id, rfl, held⟩ := entries_cell map
        have is : e.graph.of? (.node id) = some (.map entries) := held
        have operation : node ∈ Role.path.operations entries :=
          List.mem_filterMap.mpr ⟨_, member, by simp only at named; simp only [named]⟩
        refine .part acts ?_
        simp only [Role.parts, is, Role.each, List.mem_append]
        exact .inr (List.mem_map.mpr ⟨_, operation, rfl⟩)
  rw [field_alike drops spared _ (by decide)]
  -- All entries of a path are looked at, so the keyword is one of them, and no operation.
  obtain rfl | ⟨less, _⟩ := spared_cases drops spared
  · exact operations_in_step drops answered path shared errors (fun _ => true) (List.filter_true _)
      (fun _ _ lost => by cases lost) each
  · refine operations_in_step drops answered path shared errors _ less.symm (fun entry _ lost => ?_) each
    have named : entry.1 = .text k := by simpa using lost
    rw [named]
    exact keyword_no_method drops.keyword

theorem endpoints_in_step (drops : Drops d e n k) (answered : Answered d e n k see convert convert')
    (errors : List ErrorDefinition) (paths : Entries) (acts : ∀ entry ∈ paths, Acts e .path entry.2) :
    InStep (Matched see (Noted d n k)) (endpointsFrom ⟨⟨e, []⟩, convert, schemes⟩ errors paths)
      (endpointsFrom ⟨⟨d, []⟩, convert', schemes⟩ errors paths) Eq := by
  induction paths generalizing errors with
  | nil => exact in_step_pure rfl
  | cons entry rest ih =>
      obtain ⟨path, node⟩ := entry
      have later := fun errors => ih errors fun entry member => acts entry (List.mem_cons_of_mem _ member)
      obtain ⟨same, there⟩ := target_alike drops rfl (acts (path, node) (by simp))
      unfold endpointsFrom
      dsimp only [Surroundings.graph, Scope.graph]
      rw [same]
      obtain ⟨none_, none'⟩ | ⟨fields, fields', map, map', spared⟩ := map_cases drops there
      · rw [none_, none']
        exact later errors
      · rw [map, map']
        refine in_step_on (path_in_step drops answered path spared errors) fun first => ?_
        exact in_step_on (later _) fun more => in_step_pure rfl

end Operations

end ApiSchema.OpenApi
