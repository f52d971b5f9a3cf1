import ApiSchema.Proofs.OpenApi.Shapes

namespace ApiSchema.OpenApi

open Regime

theorem media_tame {g : Graph} {content : Item} : Tame (pickMedia g content) := by
  unfold pickMedia
  simp only
  split
  · exact tame_ok _
  · split
    · split
      · exact tame_ok _
      · exact tame_ok _
    · split
      all_goals first | exact tame_misuse _ | (split <;> exact tame_misuse _)

theorem media_schema_tame {g : Graph} {media : Option (Scalar × Item)} :
    Tame (mediaSchema g media) := by
  unfold mediaSchema
  split
  · split
    · exact tame_map _ entries_tame
    · exact tame_ok _
  · exact tame_ok _

theorem parameter_schema_tame {g : Graph} {entries : Entries} : Tame (parameterSchema g entries) := by
  unfold parameterSchema
  simp only
  split
  · exact tame_bind media_tame fun media => media_schema_tame
  · exact tame_ok _

theorem status_tame {status : String} : Tame (statusOf status) := by
  unfold statusOf
  simp only
  split
  · split
    · exact printed_tame
    · exact tame_misuse _
  · exact tame_ok _

theorem tags_tame {g : Graph} {tags : Item} : Tame (tagsOf g tags) := by
  unfold tagsOf
  split
  · exact tame_map _ items_tame
  · exact tame_ok _

theorem register_outcome (g : Graph) (errors : List ErrorDefinition) (code : Int)
    (response : Entries) (type : Option TypeRef) :
    registerError g errors code response type = .ok errors ∨
      (∃ e : ErrorDefinition, registerError g errors code response type =
        .ok (errors ++ [{ e with type }])) ∨
      ∃ f, registerError g errors code response type = .error f := by
  unfold registerError
  split
  · exact .inl rfl
  · simp only
    generalize checked (α := ErrorDefinition) _ _ _ = result
    cases result with
    | ok e => exact .inr (.inl ⟨e, rfl⟩)
    | error f => exact .inr (.inr ⟨f, rfl⟩)

theorem register_tame {g : Graph} {errors : List ErrorDefinition} {code : Int} {response : Entries}
    {type : Option TypeRef} : Tame (registerError g errors code response type) := by
  unfold registerError
  split
  · exact tame_ok _
  · exact tame_bind checked_tame fun _ => tame_ok _

theorem register_error_sound {given : Given} {g : Graph} {errors errors' : List ErrorDefinition}
    {code : Int} {response : Entries} {type : Option TypeRef}
    (sound : ∀ e ∈ errors, ErrorAt given e)
    (typed : ∀ ref, type = some ref → ∃ item, given (.node item) ref.typeId)
    (registered : registerError g errors code response type = .ok errors') :
    ∀ e ∈ errors', ErrorAt given e := by
  obtain same | ⟨e, made⟩ | ⟨f, stopped⟩ := register_outcome g errors code response type
  · rw [same] at registered
    cases registered
    exact sound
  · rw [made] at registered
    cases registered
    intro e' member
    obtain old | new := List.mem_append.mp member
    · exact sound e' old
    · cases List.mem_singleton.mp new
      exact typed
  · rw [stopped] at registered
    cases registered

theorem known_errors_tame {g : Graph} {errors : List ErrorDefinition} {code : Status}
    {response : Entries} {type : Option TypeRef} : Tame (knownErrors g errors code response type) := by
  unfold knownErrors
  split
  · exact register_tame
  · exact tame_ok _

theorem known_errors_sound {given : Given} {g : Graph} {errors errors' : List ErrorDefinition}
    {code : Status} {response : Entries} {type : Option TypeRef}
    (sound : ∀ e ∈ errors, ErrorAt given e)
    (typed : ∀ ref, type = some ref → ∃ item, given (.node item) ref.typeId)
    (registered : knownErrors g errors code response type = .ok errors') :
    ∀ e ∈ errors', ErrorAt given e := by
  unfold knownErrors at registered
  split at registered
  · exact register_error_sound sound typed registered
  · cases registered
    exact sound

section Authentication

variable {g : Graph} {operation : Except Fault String} {schemes : List String}

theorem add_schemes_known {sofar ids : List String} {names : List Item}
    (known : ∀ id ∈ sofar, id ∈ schemes) (added : addSchemes g operation schemes sofar names = .ok ids) :
    ∀ id ∈ ids, id ∈ schemes := by
  induction names generalizing sofar with
  | nil =>
      cases added
      exact known
  | cons item rest ih =>
      unfold addSchemes at added
      split at added
      · cases added
      · split at added
        next id named =>
          have listed : id ∈ schemes := List.contains_iff_mem.mp (Option.filter_eq_some_iff.mp named).2
          refine ih (fun id' member => ?_) added
          split at member
          · exact known id' member
          · obtain old | new := List.mem_append.mp member
            · exact known id' old
            · exact List.mem_singleton.mp new ▸ listed
        · obtain ⟨_, _, added⟩ := bound_ok added
          obtain ⟨_, _, added⟩ := bound_ok added
          exact ih known added

theorem authentication_known {sofar ids : List String} {requirements : List Item}
    (known : ∀ id ∈ sofar, id ∈ schemes)
    (asked : authenticationOf g operation schemes sofar requirements = .ok ids) :
    ∀ id ∈ ids, id ∈ schemes := by
  induction requirements generalizing sofar with
  | nil =>
      cases asked
      exact known
  | cons requirement rest ih =>
      unfold authenticationOf at asked
      obtain ⟨names, _, asked⟩ := bound_ok asked
      obtain ⟨more, added, asked⟩ := bound_ok asked
      exact ih (add_schemes_known known added) asked

theorem add_schemes_tame (worded : Tame operation) {sofar : List String} {names : List Item} :
    Tame (addSchemes g operation schemes sofar names) := by
  induction names generalizing sofar with
  | nil => exact tame_ok _
  | cons item rest ih =>
      unfold addSchemes
      split
      · exact tame_misuse _
      · split
        · exact ih
        · exact tame_bind worded fun _ => tame_bind printed_tame fun _ => ih

theorem authentication_tame (worded : Tame operation) {sofar : List String} {requirements : List Item} :
    Tame (authenticationOf g operation schemes sofar requirements) := by
  induction requirements generalizing sofar with
  | nil => exact tame_ok _
  | cons requirement rest ih =>
      unfold authenticationOf
      exact tame_bind items_or_none_tame fun _ =>
        tame_bind (add_schemes_tame worded) fun _ => ih

end Authentication

theorem mentions_tame {g : Graph} {item : Item} : Tame (partMentionsStream g item) := by
  unfold partMentionsStream
  split
  · exact tame_ok _
  · split
    · exact tame_ok _
    · exact tame_misuse _
  · split
    · exact tame_misuse _
    · exact tame_ok _

theorem streaming_tame {g : Graph} {operation : Entries} : Tame (streamingOf g operation) := by
  unfold streamingOf
  refine tame_bind mentions_tame fun found => ?_
  cases found with
  | true => exact tame_ok _
  | false => exact mentions_tame

theorem operation_id_tame {g : Graph} {m : Method} {path : Scalar} {operation : Entries} :
    Tame (operationIdOf g m path operation) := by
  unfold operationIdOf
  simp only
  split
  · exact tame_ok _
  · split
    · exact tame_ok _
    · exact tame_misuse _

theorem method_tame {name : Scalar} : Tame (methodNamed? name) := by
  unfold methodNamed?
  split
  · exact tame_ok _
  · exact tame_ok _
  · exact tame_misuse _

section Operations

variable {R : Regime Context Fault} {given : Part → String → Context → Prop} {start : Context}
  {w : Surroundings} {operation : Except Fault String}

theorem named_type_kept (able : Converts R given start w.scope w.convert) (node : Item)
    {name : Except Fault String} (worded : Tame name) :
    R.Keeps start (w.typeRef node name) fun ref => given (.node node) ref.typeId :=
  tame_step able worded fun name _ => type_ref_of_kept able node name none

theorem schema_type_kept (able : Converts R given start w.scope w.convert) (schema : Item)
    {name : Except Fault String} (worded : Tame name) :
    R.Keeps start (schemaTypeOf w schema name) fun type c =>
      ∀ ref, type = some ref → given (.node schema) ref.typeId c := by
  unfold schemaTypeOf
  split
  · exact keeps_pure fun _ _ _ same => by cases same
  · refine keeps_map (keeps_weaken (named_type_kept able schema worded) ?_)
    intro ref c _ known ref' same
    cases same
    exact known

theorem component_kept (able : Converts R given start w.scope w.convert) (d : Document) (item : Item)
    (kind : String) :
    R.Keeps start (component? d item kind) fun found _ => found = d.graph.entries? (target d item) := by
  unfold component?
  cases d.graph.entries? (target d item) with
  | some entries => exact keeps_pure fun _ _ => rfl
  | none =>
      refine keeps_bind (note_issue_kept able broken_reference_tame) fun _ _ _ _ => ?_
      exact keeps_pure fun _ _ => rfl

theorem parameter_of_kept (able : Converts R given start w.scope w.convert) (worded : Tame operation)
    (entries : Entries) :
    R.Keeps start (parameterOf w operation entries) fun result c =>
      ∀ p, result = some p → ParameterAt w.scope.document (given · · c) entries p := by
  unfold parameterOf
  refine tame_step able parameter_schema_tame fun schema read => ?_
  split
  · refine keeps_bind (warn_of_kept able (tame_bind printed_tame fun _ => tame_ok _)) ?_
    exact fun _ _ _ _ => keeps_pure fun _ _ _ same => by cases same
  · split
    · refine keeps_bind (warn_of_kept able (tame_bind printed_tame fun _ =>
        tame_bind printed_tame fun _ => tame_ok _)) ?_
      exact fun _ _ _ _ => keeps_pure fun _ _ _ same => by cases same
    · refine keeps_bind (named_type_kept able _ (tame_bind worded fun _ =>
        tame_bind printed_tame fun _ => tame_ok _)) fun type c later known => ?_
      refine checked_step (converts_later able later) parameter_ok fun p typed => ?_
      refine keeps_pure fun c' later' q same => ?_
      cases same
      refine ⟨schema, read, ?_⟩
      have held := able.lasting _ _ c c' later' known
      rw [← typed] at held
      exact held

theorem merge_parameters_kept (able : Converts R given start w.scope w.convert)
    (sofar : List ((Value × Value) × Entries)) (raws : List Item) :
    R.Keeps start (mergeParameters w sofar raws) fun merged _ =>
      merged = mergedParameters w.scope.document sofar raws := by
  induction raws generalizing start sofar with
  | nil => exact keeps_pure fun _ _ => rfl
  | cons raw rest ih =>
      unfold mergeParameters mergedParameters
      refine keeps_bind (component_kept able _ _ _) fun found c later same => ?_
      rw [← same]
      have able' := converts_later able later
      cases found with
      | none => exact ih able' sofar
      | some entries =>
          simp only
          split
          · split
            · exact ih able' _
            · exact keeps_throw (able.faults _ trivial)
          · exact ih able' sofar

theorem medium_schema {g : Graph} {entries : Entries} {media : Option (Scalar × Item)} {schema : Item}
    (picked : pickMedia g (fieldOf entries "content") = .ok media)
    (read : mediaSchema g media = .ok schema) : mediumSchema? g entries = some schema := by
  simp [mediumSchema?, picked, read, Except.toOption]

theorem request_body_of_kept (able : Converts R given start w.scope w.convert)
    (worded : Tame operation) (raw : Item) :
    R.Keeps start (requestBodyOf w operation raw) fun result c =>
      ∀ b, result = some b → BodyAt w.scope.document (given · · c) raw b := by
  unfold requestBodyOf
  refine keeps_bind (component_kept able _ _ _) fun found c later same => ?_
  have able' := converts_later able later
  cases found with
  | none => exact keeps_pure fun _ _ _ same => by cases same
  | some body =>
      refine tame_step able' media_tame fun media picked => ?_
      refine tame_step able' media_schema_tame fun schema read => ?_
      split
      · refine keeps_bind (warn_of_kept able' (tame_bind worded fun _ => tame_ok _)) ?_
        exact fun _ _ _ _ => keeps_pure fun _ _ _ same => by cases same
      · refine keeps_bind (named_type_kept able' _ (tame_bind worded fun _ => tame_ok _)) ?_
        intro type c₁ later₁ known
        refine keeps_map (keeps_weaken (checked_kept (converts_later able' later₁)
          request_body_ok) ?_)
        intro b c₂ later₂ typed b' kept
        cases kept
        refine ⟨body, schema, same.symm, medium_schema picked read, ?_⟩
        have held := able.lasting _ _ c₁ c₂ later₂ known
        rw [← typed] at held
        exact held

theorem body_of_kept (able : Converts R given start w.scope w.convert) (worded : Tame operation)
    (raw : Item) :
    R.Keeps start (bodyOf w operation raw) fun result c =>
      ∀ b, result = some b → BodyAt w.scope.document (given · · c) raw b := by
  unfold bodyOf
  split
  · exact keeps_pure fun _ _ _ same => by cases same
  · exact request_body_of_kept able worded raw

theorem kept_cons {α β : Type} {made : α → β → Prop} {a : α} {b : Option β} {parts : List α}
    {results : List β} (first : ∀ r, b = some r → made a r) (rest : Kept made parts results) :
    Kept made (a :: parts) (b.toList ++ results) := by
  obtain ⟨each, all, same⟩ := rest
  refine ⟨b :: each, .cons first all, ?_⟩
  rw [same]
  cases b <;> rfl

theorem header_later (able : Converts R given start w.scope w.convert) {c c' : Context}
    (later : R.grows c c') (entry : Scalar × Item) (h : Header)
    (held : HeaderAt w.scope.document (given · · c) entry h) :
    HeaderAt w.scope.document (given · · c') entry h :=
  header_at_weaken (fun _ _ => able.lasting _ _ c c' later) entry h held

theorem headers_from_kept (able : Converts R given start w.scope w.convert) (worded : Tame operation)
    (declared : Entries) :
    R.Keeps start (headersFrom w operation declared) fun headers c =>
      Kept (HeaderAt w.scope.document (given · · c)) declared headers := by
  induction declared generalizing start with
  | nil => exact keeps_pure fun _ _ => ⟨[], .nil, rfl⟩
  | cons entry rest ih =>
      obtain ⟨name, raw⟩ := entry
      unfold headersFrom
      refine keeps_bind (component_kept able _ _ _) fun found c later same => ?_
      have able' := converts_later able later
      simp only
      split
      · refine keeps_weaken (ih able') fun headers c' _ kept => ?_
        exact kept_cons (b := none) (fun _ same => by cases same) kept
      next present =>
        refine keeps_bind (named_type_kept able' _ (tame_bind worded fun _ =>
          tame_bind printed_tame fun _ => tame_ok _)) fun type c₁ later₁ known => ?_
        have able₁ := converts_later able' later₁
        refine checked_step able₁ header_ok fun h typed => ?_
        refine keeps_bind (ih able₁) fun headers c₂ later₂ kept => ?_
        refine keeps_pure fun c₃ later₃ => kept_cons (b := some h) ?_ ?_
        · intro h' taken
          cases taken
          cases found with
          | none => exact absurd rfl present
          | some entries =>
              refine ⟨entries, same.symm, ?_⟩
              have held := able.lasting _ _ c₁ c₃ (R.trans later₂ later₃) known
              rw [← typed] at held
              exact held
        · exact kept_weaken kept (header_later able later₃)

theorem error_later (able : Converts R given start w.scope w.convert) {c c' : Context}
    (later : R.grows c c') {errors : List ErrorDefinition}
    (sound : ∀ e ∈ errors, ErrorAt (given · · c) e) : ∀ e ∈ errors, ErrorAt (given · · c') e :=
  fun e member => error_at_weaken (fun _ _ => able.lasting _ _ c c' later) (sound e member)

theorem response_later (able : Converts R given start w.scope w.convert) {c c' : Context}
    (later : R.grows c c') (entry : Scalar × Item) (r : Response)
    (held : ResponseAt w.scope.document (given · · c) entry r) :
    ResponseAt w.scope.document (given · · c') entry r :=
  response_at_weaken (fun _ _ => able.lasting _ _ c c' later) entry r held

theorem typed_response_kept (able : Converts R given start w.scope w.convert) (worded : Tame operation)
    {status : String} {entry : Scalar × Item} {entries : Entries} {media : Option (Scalar × Item)}
    {schema : Item} {errors : List ErrorDefinition} {type : Option TypeRef}
    (found : w.scope.document.graph.entries? (target w.scope.document entry.2) = some entries)
    (medium : mediumSchema? w.graph entries = some schema)
    (sound : ∀ e ∈ errors, ErrorAt (given · · start) e)
    (typed : ∀ ref, type = some ref → given (.node schema) ref.typeId start) :
    R.Keeps start (typedResponse w operation status entries media errors type) fun result c =>
      (∀ r, result.1 = some r → ResponseAt w.scope.document (given · · c) entry r) ∧
        ∀ e ∈ result.2, ErrorAt (given · · c) e := by
  unfold typedResponse
  refine tame_step able entries_or_none_tame fun declared read => ?_
  refine keeps_bind (headers_from_kept able worded declared) fun headers c₁ later₁ kept => ?_
  have able₁ := converts_later able later₁
  refine tame_step able₁ status_tame fun code _ => ?_
  refine tame_step able₁ known_errors_tame fun errors' registered => ?_
  refine checked_step able₁ (fun _ _ => trivial) fun r (_ : True) => keeps_pure fun c later => ?_
  have whole := R.trans later₁ later
  have known : ∀ ref, type = some ref → given (.node schema) ref.typeId c :=
    fun ref same => able.lasting _ _ start c whole (typed ref same)
  refine ⟨fun r' made => ?_, ?_⟩
  · cases made
    refine ⟨fun ref held => ⟨entries, schema, found, medium, known ref held⟩, fun headers' held => ?_⟩
    simp only at held
    split at held
    · cases held
    · cases held
      exact ⟨entries, declared, found, read, kept_weaken kept (header_later able later)⟩
  · exact known_errors_sound (error_later able whole sound)
      (fun ref same => ⟨schema, known ref same⟩) registered

theorem response_of_kept (able : Converts R given start w.scope w.convert) (worded : Tame operation)
    (status : String) (entry : Scalar × Item) (errors : List ErrorDefinition)
    (sound : ∀ e ∈ errors, ErrorAt (given · · start) e) :
    R.Keeps start (responseOf w operation status entry.2 errors) fun result c =>
      (∀ r, result.1 = some r → ResponseAt w.scope.document (given · · c) entry r) ∧
        ∀ e ∈ result.2, ErrorAt (given · · c) e := by
  unfold responseOf
  refine keeps_bind (component_kept able _ _ _) fun found c later same => ?_
  have able' := converts_later able later
  cases found with
  | none =>
      refine keeps_pure fun c' later' => ⟨fun r held => ?_, ?_⟩
      · cases held
      · exact error_later able (R.trans later later') sound
  | some entries =>
      refine tame_step able' media_tame fun media picked => ?_
      refine tame_step able' media_schema_tame fun schema read => ?_
      refine keeps_bind (schema_type_kept able' schema (tame_bind worded fun _ => tame_ok _)) ?_
      intro type c₁ later₁ typed
      exact typed_response_kept (converts_later able' later₁) worded same.symm
        (medium_schema picked read) (error_later able (R.trans later later₁) sound) typed

theorem responses_from_kept (able : Converts R given start w.scope w.convert) (worded : Tame operation)
    (errors : List ErrorDefinition) (answers : Entries)
    (sound : ∀ e ∈ errors, ErrorAt (given · · start) e) :
    R.Keeps start (responsesFrom w operation errors answers) fun result c =>
      Kept (ResponseAt w.scope.document (given · · c)) answers result.1 ∧
        ∀ e ∈ result.2, ErrorAt (given · · c) e := by
  induction answers generalizing start errors with
  | nil => exact keeps_pure fun c later => ⟨⟨[], .nil, rfl⟩, error_later able later sound⟩
  | cons entry rest ih =>
      unfold responsesFrom
      refine tame_step able printed_tame fun status _ => ?_
      refine keeps_bind (response_of_kept able worded status entry errors sound) ?_
      rintro ⟨r, errors₁⟩ c later ⟨made, sound₁⟩
      have able' := converts_later able later
      refine keeps_bind (ih able' errors₁ sound₁) ?_
      rintro ⟨more, errors₂⟩ c₁ later₁ ⟨kept, sound₂⟩
      refine keeps_pure fun c₂ later₂ => ⟨kept_cons ?_ ?_, error_later able later₂ sound₂⟩
      · intro r' same
        exact response_later able (R.trans later₁ later₂) entry r' (made r' same)
      · exact kept_weaken kept (response_later able later₂)

theorem parameters_kept (able : Converts R given start w.scope w.convert) (worded : Tame operation)
    (merged : List Entries) :
    R.Keeps start (merged.mapM (parameterOf w operation)) fun results c =>
      List.Forall₂ (fun entries result => ∀ p, result = some p →
        ParameterAt w.scope.document (given · · c) entries p) merged results := by
  refine keeps_each merged (fun entries p c c' later made q same => ?_) ?_
  · obtain ⟨schema, read, known⟩ := made q same
    exact ⟨schema, read, able.lasting _ _ c c' later known⟩
  · exact fun entries c later _ => parameter_of_kept (converts_later able later) worded entries

theorem endpoint_of_kept (able : Converts R given start w.scope w.convert) (o : Operation)
    (errors : List ErrorDefinition) (sound : ∀ e ∈ errors, ErrorAt (given · · start) e) :
    R.Keeps start (endpointOf w o.path o.method o.fields o.shared errors) fun result c =>
      EndpointAt w.scope.document (given · · c) w.schemes o result.1 ∧
        ∀ e ∈ result.2, ErrorAt (given · · c) e := by
  unfold endpointOf
  refine tame_step able operation_id_tame fun idItem _ => ?_
  have worded : Tame (shown w.graph idItem) := printed_tame
  refine tame_step able items_or_none_tame fun outer outerRead => ?_
  refine tame_step able items_or_none_tame fun inner innerRead => ?_
  refine keeps_bind (merge_parameters_kept able [] (outer ++ inner)) fun merged c₁ later₁ same => ?_
  have able₁ := converts_later able later₁
  refine keeps_bind (parameters_kept able₁ worded merged) fun parameters c₂ later₂ each => ?_
  have able₂ := converts_later able₁ later₂
  refine keeps_bind (body_of_kept able₂ worded _) fun body c₃ later₃ bodyAt => ?_
  have able₃ := converts_later able₂ later₃
  refine tame_step able₃ entries_or_none_tame fun answers answersRead => ?_
  have grown := R.trans later₁ (R.trans later₂ later₃)
  refine keeps_bind (responses_from_kept able₃ worded errors answers (error_later able grown sound)) ?_
  rintro ⟨responses, errors'⟩ c₄ later₄ ⟨kept, sound'⟩
  have able₄ := converts_later able₃ later₄
  refine tame_step able₄ items_or_none_tame fun asked _ => ?_
  refine tame_step able₄ (authentication_tame worded) fun ids named => ?_
  refine tame_step able₄ printed_tame fun path _ => ?_
  refine tame_step able₄ streaming_tame fun streaming _ => ?_
  refine tame_step able₄ tags_tame fun tags _ => ?_
  refine checked_step able₄ endpoint_ok ?_
  rintro e ⟨path, method⟩
  -- What was said of the parts when they were made still holds at the end.
  refine keeps_pure fun c later => ?_
  refine ⟨⟨method, path, ⟨outer, inner, outerRead, innerRead, ?_⟩, ?_, ⟨answers, answersRead, ?_⟩, ?_⟩, ?_⟩
  · rw [← same]
    refine ⟨parameters, each.imp fun entries p made q taken => ?_, rfl⟩
    obtain ⟨schema, read, known⟩ := made q taken
    exact ⟨schema, read, able.lasting _ _ c₂ c (R.trans later₃ (R.trans later₄ later)) known⟩
  · intro b taken
    obtain ⟨entries, schema, found, read, known⟩ := bodyAt b taken
    exact ⟨entries, schema, found, read, able.lasting _ _ c₃ c (R.trans later₄ later) known⟩
  · exact kept_weaken kept (response_later able later)
  · exact authentication_known (fun _ member => by cases member) named
  · exact error_later able later sound'

theorem endpoint_later (able : Converts R given start w.scope w.convert) {c c' : Context}
    (later : R.grows c c') (o : Operation) (e : Endpoint)
    (held : EndpointAt w.scope.document (given · · c) w.schemes o e) :
    EndpointAt w.scope.document (given · · c') w.schemes o e :=
  endpoint_at_weaken (fun _ _ => able.lasting _ _ c c' later) o e held

theorem operations_from_kept (able : Converts R given start w.scope w.convert) (path : Scalar)
    (shared : Item) (errors : List ErrorDefinition) (entries : Entries)
    (sound : ∀ e ∈ errors, ErrorAt (given · · start) e) :
    R.Keeps start (operationsFrom w path shared errors entries) fun result c =>
      List.Forall₂ (EndpointAt w.scope.document (given · · c) w.schemes)
        (operationsIn w.graph path shared entries) result.1 ∧
          ∀ e ∈ result.2, ErrorAt (given · · c) e := by
  induction entries generalizing start errors with
  | nil => exact keeps_pure fun c later => ⟨.nil, error_later able later sound⟩
  | cons entry rest ih =>
      obtain ⟨name, node⟩ := entry
      unfold operationsFrom operationsIn
      refine tame_step able method_tame fun found read => ?_
      rw [read]
      cases found with
      | none => exact ih able errors sound
      | some method =>
          cases w.graph.entries? node with
          | none => exact ih able errors sound
          | some fields =>
              refine keeps_bind (endpoint_of_kept able ⟨path, method, shared, fields⟩ errors sound) ?_
              rintro ⟨e, errors₁⟩ c₁ later₁ ⟨made, sound₁⟩
              refine keeps_bind (ih (converts_later able later₁) errors₁ sound₁) ?_
              rintro ⟨more, errors₂⟩ c₂ later₂ ⟨all, sound₂⟩
              refine keeps_pure fun c₃ later₃ => ⟨.cons ?_ ?_, error_later able later₃ sound₂⟩
              · exact endpoint_later able (R.trans later₂ later₃) _ e made
              · exact all.imp (endpoint_later able later₃)

theorem endpoints_from_kept (able : Converts R given start w.scope w.convert)
    (errors : List ErrorDefinition) (paths : Entries)
    (sound : ∀ e ∈ errors, ErrorAt (given · · start) e) :
    R.Keeps start (endpointsFrom w errors paths) fun result c =>
      List.Forall₂ (EndpointAt w.scope.document (given · · c) w.schemes)
        (operationsOf w.scope.document paths) result.1 ∧ ∀ e ∈ result.2, ErrorAt (given · · c) e := by
  induction paths generalizing start errors with
  | nil => exact keeps_pure fun c later => ⟨.nil, error_later able later sound⟩
  | cons entry rest ih =>
      obtain ⟨path, node⟩ := entry
      unfold endpointsFrom operationsOf Surroundings.graph Scope.graph
      cases w.scope.document.graph.entries? (target w.scope.document node) with
      | none => exact ih able errors sound
      | some entries =>
          refine keeps_bind (operations_from_kept able path _ errors entries sound) ?_
          rintro ⟨endpoints, errors₁⟩ c₁ later₁ ⟨all, sound₁⟩
          refine keeps_bind (ih (converts_later able later₁) errors₁ sound₁) ?_
          rintro ⟨more, errors₂⟩ c₂ later₂ ⟨others, sound₂⟩
          refine keeps_pure fun c₃ later₃ => ⟨?_, error_later able later₃ sound₂⟩
          refine List.rel_append ?_ ?_
          · exact all.imp (endpoint_later able (R.trans later₂ later₃))
          · exact others.imp (endpoint_later able later₃)

end Operations

end ApiSchema.OpenApi
