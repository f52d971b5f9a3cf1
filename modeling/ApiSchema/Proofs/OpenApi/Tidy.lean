import ApiSchema.OpenApi.Convert
import ApiSchema.Proofs.Conversion.Filling
import ApiSchema.Proofs.OpenApi.Schemas
import ApiSchema.Proofs.Schema.Carried

namespace ApiSchema.OpenApi

open Regime Check Checked

abbrev Tidies {α : Type} (step : Conversion α) (post : α → Prop) : Prop :=
  Fills TypeDefinition.Tidy (fun _ => True) step post

theorem tidies_of_except {α : Type} {e : Except Fault α} : Tidies (ofExcept e) fun a => e = .ok a :=
  fills_of_except fun _ _ => trivial

def Orderly (convert : Convert) : Prop :=
  ∀ trail ask, Tidies (convert trail ask) fun _ => True

variable {s : Scope} {convert : Convert}

theorem orderly_converts (orderly : Orderly convert) :
    Converts (filling TypeDefinition.Tidy fun _ => True) (fun _ _ _ => True) {} s convert where
  quiet := filling_quiet
  lasting _ _ _ _ _ _ := trivial
  faults _ _ := trivial
  nodes _ _ _ := orderly _ _
  names _ := orderly _ _

theorem fills_note_issue (issue : Except Fault NodeIssue) :
    Tidies (noteIssue issue) fun _ => True :=
  fills_bind tidies_of_except fun said _ => fills_record said

theorem property_bare {pairs : List (Scalar × Value)} (bare : lookup? pairs (.text "metadata") = none) :
    ∀ p, property (.map pairs) = .ok p → p.metadata = none := by
  simp only [property, all_and_then, all_seq, all_map, record_ok]
  intro pairs' same _ _ _ _ _ _ _ _ _ _ _ _ metadata given
  cases same
  simp [Check.optional, withDefault, Check.field?, bare] at given
  exact given.symm

theorem property_fills (orderly : Orderly convert) (owner : String) (name : Scalar) (node : Item) :
    Tidies (propertyOf s convert owner name node) fun p => p.metadata = none := by
  have able := orderly_converts (s := s) orderly
  unfold propertyOf
  refine fills_bind tidies_of_except fun shownName _ => ?_
  refine fills_bind (type_ref_of_kept able _ _ _) fun type _ => ?_
  refine fills_bind (constraints_of_kept able _ _ _) fun limits _ => ?_
  refine fills_bind (checked_kept able (property_bare (by simp [notes]))) fun p bare => ?_
  exact fills_pure bare

def Gathered.Bare (g : Gathered) : Prop := ∀ entry ∈ g.properties, entry.2.metadata = none

theorem own_properties_fills (orderly : Orderly convert) (owner : String) (own : Entries) {sofar : Gathered}
    (bare : sofar.Bare) : Tidies (ownProperties s convert owner sofar own) Gathered.Bare := by
  induction own generalizing sofar with
  | nil => exact fills_pure bare
  | cons entry rest ih =>
      obtain ⟨name, node⟩ := entry
      unfold ownProperties
      refine fills_bind (property_fills orderly owner name node) fun p own => ih fun entry member => ?_
      rcases inserted_entry member with new | ⟨old, held, same⟩
      · exact new ▸ own
      · exact same ▸ bare old held

def Gathers.Bare (gather : Gather) : Prop :=
  ∀ node owner optional sofar, sofar.Bare →
    Tidies (gather node owner optional sofar) fun result => result.1.Bare

theorem gather_member_fills {gather : Gather} (gathers : Gathers.Bare gather)
    (owner composition : String) (optional : Bool) (member : Item × Nat) {state : Gathered × Option String}
    (bare : state.1.Bare) :
    Tidies (gatherMember s gather owner composition optional state member)
      fun result => result.1.Bare := by
  unfold gatherMember
  simp only
  split
  · refine fills_bind tidies_of_except fun inner _ => ?_
    refine fills_bind (gathers _ inner optional state.1 bare) fun result bare' => ?_
    exact fills_pure bare'
  · exact fills_bind (fills_note_issue _) fun _ _ => fills_pure bare

theorem bare_required {g : Graph} (names : List Item) {sofar : Gathered} (bare : sofar.Bare) :
    (names.foldl (addRequired g) sofar).Bare := by
  induction names generalizing sofar with
  | nil => exact bare
  | cons name rest ih => exact ih bare

theorem gather_fields_fills (orderly : Orderly convert) {gather : Gather} (gathers : Gathers.Bare gather)
    (entries : Entries) (owner : String) (optional : Bool) {sofar : Gathered} (bare : sofar.Bare) :
    Tidies (gatherFields s convert gather entries owner optional sofar)
      fun result => result.1.Bare := by
  have able := orderly_converts (s := s) orderly
  unfold gatherFields
  refine fills_bind tidies_of_except fun all _ => ?_
  refine fills_bind (fills_fold _ _ bare fun state bare member _ =>
    gather_member_fills gathers owner "allOf" optional member bare) fun state bare => ?_
  refine fills_bind tidies_of_except fun any _ => ?_
  refine fills_bind (fills_fold _ _ bare fun state bare member _ =>
    gather_member_fills gathers owner "anyOf" true member bare) fun state bare => ?_
  refine fills_bind tidies_of_except fun own _ => ?_
  refine fills_bind (own_properties_fills orderly owner own bare) fun sofar bare => ?_
  refine fills_bind tidies_of_except fun names _ => ?_
  refine fills_bind (discriminator_of_kept able _ _ _) fun fields _ => ?_
  have bare : (names.foldl (addRequired s.graph) sofar).Bare := bare_required names bare
  split
  · exact fills_pure bare
  · exact fills_pure bare

theorem gather_fills (orderly : Orderly convert) (fuel : Nat) : Gathers.Bare (gather s convert fuel) := by
  induction fuel with
  | zero => exact fun _ _ _ _ bare => fills_pure bare
  | succ fuel ih =>
      intro node owner optional sofar bare
      unfold gather
      cases node with
      | scalar a => exact fills_pure bare
      | node n =>
          cases s.graph.entries? (.node n) with
          | none => exact fills_pure bare
          | some entries =>
              simp only
              split
              · exact fills_pure bare
              · exact gather_fields_fills orderly ih entries owner optional bare

theorem object_fills (orderly : Orderly convert) (id : String) (node : Item) (entries : Entries)
    (name : String) : Tidies (buildObject s convert id node entries name) TypeDefinition.Tidy := by
  have able := orderly_converts (s := s) orderly
  unfold buildObject
  refine fills_bind (gather_fills orderly _ node name false {} (by simp [Gathered.Bare])) fun result bare => ?_
  refine fills_bind (additional_of_kept able _ _) fun additional _ => ?_
  refine fills_weaken tidies_of_except fun t made => ?_
  obtain ⟨-, none, names, discriminator, shaped⟩ := object_of_ok made
  refine ⟨.inl none, ?_⟩
  rw [shaped]
  intro p member
  obtain ⟨q, held, rfl⟩ := List.mem_map.mp member
  obtain ⟨entry, listed, rfl⟩ := List.mem_map.mp held
  exact bare entry listed

theorem array_fills (orderly : Orderly convert) (id : String) (entries : Entries) (name : String) :
    Tidies (buildArray s convert id entries name) TypeDefinition.Tidy := by
  have able := orderly_converts (s := s) orderly
  unfold buildArray
  simp only
  split
  · have stopped : Tidies (throw (.node (.noItems name))) fun (_ : Unit) => False :=
      fills_throw trivial
    exact fills_bind stopped fun _ impossible => impossible.elim
  · refine fills_bind (type_ref_of_kept able _ _ _) fun ref _ => ?_
    refine fills_weaken (checked_kept able fun t => array_ok) ?_
    rintro t ⟨-, none, least, most, unique, shaped⟩
    exact ⟨.inl none, by rw [shaped]; trivial⟩

theorem put_name_eq (named : List (String × String)) (name id : String) :
    mappingOf.putName named name id = Check.putNamed named (name, id) := by
  induction named with
  | nil => rfl
  | cons first rest ih =>
      rw [mappingOf.putName, Check.putNamed, ih]
      by_cases same : first.1 = name <;> simp [same]

theorem mapping_fills (orderly : Orderly convert) (pairs : Entries) {sofar : List (String × String)}
    (distinct : Distinct sofar) : Tidies (mappingOf s convert sofar pairs) Distinct := by
  induction pairs generalizing sofar with
  | nil => exact fills_pure distinct
  | cons pair rest ih =>
      obtain ⟨key, item⟩ := pair
      unfold mappingOf
      split
      · exact ih distinct
      · refine fills_bind tidies_of_except fun shownKey _ => ?_
        refine fills_bind (orderly _ _) fun id _ => ih ?_
        rw [put_name_eq]
        exact put_distinct distinct _

theorem union_fills (orderly : Orderly convert) (id : String) (entries : Entries) (name : String) :
    Tidies (buildUnion s convert id entries name) TypeDefinition.Tidy := by
  have able := orderly_converts (s := s) orderly
  unfold buildUnion
  refine fills_bind (variants_from_kept able name 0 _) fun variants _ => ?_
  refine fills_bind (discriminator_of_kept able _ _ _) fun fields _ => ?_
  extract_lets property finish
  have finished (mapping : List (String × String)) (distinct : Distinct mapping) :
      Tidies (finish mapping) TypeDefinition.Tidy := by
    refine fills_bind (checked_kept able fun t => plain_type_ok) ?_
    rintro t ⟨-, none⟩
    refine fills_pure ⟨.inl none, fun held given => ?_⟩
    split at given
    · cases given
    · cases given
      exact distinct
  split
  · exact fills_bind (mapping_fills orderly _ .nil) finished
  · exact finished [] .nil

theorem enum_literal_short {g : Graph} {item : Item} {l : Literal} (literal : enumLiteral? g item = some l)
    (short : (g.value item).isShort = true) : l.toScalar.isShort = true := by
  unfold enumLiteral? at literal
  split at literal <;> cases literal
  · rfl
  · exact short
  all_goals rfl

theorem enum_values_short {g : Graph} {items : List Item} {values : List EnumValue}
    (made : enumValuesOf g items = .ok values) : ∀ v ∈ values, v.value.toScalar.isShort = true := by
  unfold enumValuesOf printed at made
  split at made
  next short =>
    cases made
    rintro v member
    obtain ⟨l, listed, rfl⟩ := List.mem_map.mp member
    obtain ⟨item, there, literal⟩ := List.mem_filterMap.mp listed
    exact enum_literal_short literal (List.all_eq_true.mp short item there)
  next => cases made

theorem enum_kind_tidy {values : List EnumValue} (short : ∀ v ∈ values, v.value.toScalar.isShort = true) :
    (Shape.enum values (enumKindOf values)).Tidy := by
  refine ⟨?_, short⟩
  cases values with
  | nil => simp [enumKindOf]
  | cons v rest => cases text : v.value.isText <;> simp [enumKindOf, text]

theorem enum_fills (id : String) (entries : Entries) (name : String) :
    Tidies (buildEnum s id entries name) TypeDefinition.Tidy := by
  unfold buildEnum
  extract_lets g finish
  have finished (raw : List Item) : Tidies (finish raw) TypeDefinition.Tidy := by
    refine fills_bind tidies_of_except fun values listed => fills_bind tidies_of_except fun t made => ?_
    exact fills_pure ⟨.inl (plain_type_ok (checked_ok made)).2, enum_kind_tidy (enum_values_short listed)⟩
  split
  · exact fills_bind tidies_of_except fun raw _ => finished raw
  · exact finished _

theorem primitive_fills (orderly : Orderly convert) (id : String) (entries : Entries) (name : String) :
    Tidies (buildPrimitive s id entries name) TypeDefinition.Tidy := by
  have able := orderly_converts (s := s) orderly
  unfold buildPrimitive
  extract_lets g declared finish choose
  have finished (kind : PrimitiveKind) : Tidies (finish kind) TypeDefinition.Tidy := by
    refine fills_bind (constraints_of_kept able g entries name) fun limits _ => ?_
    refine fills_bind tidies_of_except fun t made => ?_
    exact fills_pure ⟨.inl (primitive_ok (checked_ok made)).2, trivial⟩
  have chosen : Tidies (choose ()) TypeDefinition.Tidy := by
    simp only [choose]
    split
    · exact finished _
    · exact fills_bind (fills_note_issue _) fun _ _ => finished .string
  split
  · have stopped : Tidies (throw (.misuse .kind)) fun (_ : Unit) => False := fills_throw trivial
    exact fills_bind stopped fun _ impossible => impossible.elim
  · exact chosen

theorem build_fills (orderly : Orderly convert) (id : String) (node : Item) (entries : Entries)
    (name : String) : Tidies (build s convert id node entries name) TypeDefinition.Tidy := by
  unfold build
  simp only
  split
  · exact enum_fills id entries name
  · split
    · exact object_fills orderly id node entries name
    · split
      · exact array_fills orderly id entries name
      · split
        · exact union_fills orderly id entries name
        · exact primitive_fills orderly id entries name

theorem follow_fills (orderly : Orderly convert) (reference : String) :
    Tidies (follow s convert reference) fun _ => True := by
  unfold follow
  refine fills_get fun c => ?_
  split
  · exact fills_pure trivial
  · split
    · exact fills_placeholder tidy_placeholder _ _ _ _
    · split
      · exact fills_placeholder tidy_placeholder _ _ _ _
      · split
        · exact fills_placeholder tidy_placeholder _ _ _ _
        · split
          · refine fills_bind (orderly _ _) fun id _ => ?_
            exact fills_bind (fills_modify (fun _ => rfl) fun _ => rfl) fun _ _ => fills_pure trivial
          · exact orderly _ _

theorem step_fills (orderly : Orderly convert) (ask : Ask) :
    Tidies (convertStep s convert ask) fun _ => True := by
  unfold convertStep
  cases ask with
  | reference text => exact follow_fills orderly text
  | node item name reference pointer =>
      simp only
      split
      · exact fills_placeholder tidy_placeholder _ _ _ _
      · split
        · exact follow_fills orderly _
        · exact fills_resolve tidy_placeholder (fun id => build_fills orderly id item _ name)
            (fun _ _ => trivial) fun _ _ => .inr trivial

theorem within_orderly (d : Document) (fuel : Nat) : Orderly (convertWithin d fuel) := by
  induction fuel with
  | zero => exact fun _ _ => fills_throw trivial
  | succ fuel ih => exact fun trail ask => step_fills ih ask

theorem components_fill (d : Document) (entries : Entries) :
    Tidies (convertComponents (convertNode d) entries) fun _ => True := by
  induction entries with
  | nil => exact fills_pure trivial
  | cons entry rest ih =>
      unfold convertComponents
      refine fills_bind tidies_of_except fun name _ => ?_
      exact fills_bind (within_orderly d _ _ _) fun _ _ => ih

section Security

theorem map_distinct {α : Type} {check : Check α} {v : Value} :
    ∀ fields, Check.map check v = .ok fields → (fields.map Prod.fst).Nodup := by
  cases v with
  | map pairs =>
      simp only [Check.map, all_map_method]
      exact fun named _ => merged_distinct (by simp) named
  | _ => exact fun _ impossible => by simp [Check.map] at impossible

theorem flow_distinct {v : Value} : ∀ f, flow v = .ok f → ∀ scopes ∈ f.scopes, Distinct scopes := by
  simp only [flow, all_and_then, all_seq, all_map, record_ok]
  intro pairs _ _ _ _ _ _ _ _ _ scopes read
  exact optional_ok (fun _ => map_distinct) scopes read

theorem key_location_ok {v : Value} : ∀ l, keyLocation v = .ok l → l ≠ .path := by
  simp only [keyLocation, all_map_method]
  intro name _
  split
  · simp
  · split <;> simp

theorem key_scheme_json {v : Value} : ∀ a, apiKeyScheme v = .ok a → a.kind.IsJson := by
  simp only [apiKeyScheme, all_and_then, all_seq, all_map, record_ok]
  intro pairs _ _ _ _ _ location read
  intros
  exact required_ok (fun _ => key_location_ok) location read

theorem bearer_scheme_json {v : Value} : ∀ a, bearerScheme v = .ok a → a.kind.IsJson := by
  simp only [bearerScheme, all_and_then, all_seq, all_map, record_ok]
  intros
  trivial

theorem basic_scheme_json {v : Value} : ∀ a, basicScheme v = .ok a → a.kind.IsJson := by
  simp only [basicScheme, all_and_then, all_seq, all_map, record_ok]
  intros
  trivial

theorem each_made {α β : Type} {step : α → Except Fault β} {P : β → Prop} (items : List α)
    (each : ∀ a b, step a = .ok b → P b) : ∀ made, items.mapM step = .ok made → ∀ b ∈ made, P b := by
  induction items with
  | nil =>
      intro made ok
      cases ok
      simp
  | cons a rest ih =>
      intro made ok
      rw [List.mapM_cons] at ok
      cases first : step a with
      | error f =>
          rw [first] at ok
          cases ok
      | ok b =>
          cases more : rest.mapM step with
          | error f =>
              simp only [first, more, bind, Except.bind] at ok
              cases ok
          | ok others =>
              simp only [first, more, bind, Except.bind] at ok
              cases ok
              exact List.forall_mem_cons.mpr ⟨each a b first, ih others more⟩

theorem flows_distinct {g : Graph} {item : Item} {flows : List Flow} (read : flowsOf g item = .ok flows) :
    ∀ f ∈ flows, ∀ scopes ∈ f.scopes, Distinct scopes := by
  unfold flowsOf at read
  cases fields : entriesOf g item with
  | error f =>
      rw [fields] at read
      cases read
  | ok entries =>
      rw [fields] at read
      exact each_made _ (fun _ f made => flow_distinct f (checked_ok made)) flows read

theorem scheme_fills (d : Document) (id : Scalar) (entries : Entries) :
    Tidies (schemeOf ⟨d, []⟩ id entries) fun scheme => ∀ a ∈ scheme, a.kind.IsJson := by
  have given {title : String} {check : Check AuthScheme} {fields : List (String × Value)}
      (json : ∀ a, check (.object fields) = .ok a → a.kind.IsJson) :
      Tidies (some <$> ofExcept (checked title check fields))
        fun scheme => ∀ a ∈ scheme, a.kind.IsJson := by
    refine fills_map (fills_weaken tidies_of_except fun a made b same => ?_)
    cases same
    exact json a (checked_ok made)
  unfold schemeOf
  extract_lets g kind common location
  refine fills_bind tidies_of_except fun httpScheme _ => ?_
  split
  · exact given key_scheme_json
  · split
    · exact given bearer_scheme_json
    · split
      · exact given basic_scheme_json
      · split
        · refine fills_bind tidies_of_except fun flows read => ?_
          refine fills_bind tidies_of_except fun scheme _ => fills_pure fun a same => ?_
          cases same
          exact flows_distinct read
        · exact fills_bind (fills_note_issue _) fun _ _ => fills_pure (by simp)

theorem schemes_fill (d : Document) (entries : Entries) :
    Tidies (schemesFrom ⟨d, []⟩ entries) fun schemes => ∀ a ∈ schemes, a.kind.IsJson := by
  have able : Converts (filling TypeDefinition.Tidy fun _ => True) (fun _ _ _ => True) {}
    (Surroundings.mk ⟨d, []⟩ (convertNode d) []).scope (convertNode d) := orderly_converts (within_orderly d _)
  induction entries with
  | nil => exact fills_pure (by simp)
  | cons entry rest ih =>
      obtain ⟨id, node⟩ := entry
      unfold schemesFrom
      refine fills_bind (component_kept able d node "security scheme") fun found _ => ?_
      extract_lets finish
      have finished (scheme : Option AuthScheme) (json : ∀ a ∈ scheme, a.kind.IsJson) :
          Tidies (finish scheme) fun schemes => ∀ a ∈ schemes, a.kind.IsJson := by
        refine fills_bind ih fun more jsons => fills_pure fun a member => ?_
        rcases List.mem_append.mp member with own | other
        · exact json a (Option.mem_toList.mp own)
        · exact jsons a other
      cases found with
      | none => exact finished none (by simp)
      | some entries => exact fills_bind (scheme_fills d id entries) finished

end Security

section Endpoints

variable {w : Surroundings}

theorem endpoint_bare {pairs : List (Scalar × Value)} (bare : lookup? pairs (.text "metadata") = none) :
    ∀ e, endpoint (.map pairs) = .ok e → e.metadata = none := by
  simp only [endpoint, all_and_then, all_seq, all_map, record_ok]
  intro pairs' same
  cases same
  intros
  rename_i metadata given
  simp [Check.optional, withDefault, Check.field?, bare] at given
  exact given.symm

theorem endpoint_fills (orderly : Orderly w.convert) (path : Scalar) (m : Method) (operation : Entries)
    (shared : Item) (errors : List ErrorDefinition) :
    Tidies (endpointOf w path m operation shared errors)
      fun result => result.1.metadata = none := by
  have able := orderly_converts (s := w.scope) orderly
  unfold endpointOf
  refine fills_bind tidies_of_except fun idItem _ => ?_
  refine fills_bind tidies_of_except fun outer _ => ?_
  refine fills_bind tidies_of_except fun inner _ => ?_
  refine fills_bind (merge_parameters_kept able [] (outer ++ inner)) fun merged _ => ?_
  have worded : Tame (shown w.graph idItem) := printed_tame
  have each (entries : Entries) (_ : entries ∈ merged) :
      Tidies (parameterOf w (shown w.graph idItem) entries) fun _ => True :=
    fills_weaken (parameter_of_kept able worded entries) fun _ _ => trivial
  refine fills_bind (fills_each merged each) fun parameters _ => ?_
  refine fills_bind (body_of_kept able worded _) fun body _ => ?_
  refine fills_bind tidies_of_except fun answers _ => ?_
  have sound : ∀ e ∈ errors, ErrorAt (fun _ _ => True) e := fun _ _ _ _ => ⟨.null, trivial⟩
  refine fills_bind (responses_from_kept able worded errors answers sound) fun result _ => ?_
  refine fills_bind tidies_of_except fun asked _ => fills_bind tidies_of_except fun ids _ => ?_
  refine fills_bind tidies_of_except fun shownPath _ => fills_bind tidies_of_except fun streaming _ => ?_
  refine fills_bind tidies_of_except fun tags _ => ?_
  refine fills_bind (checked_kept able (endpoint_bare (by simp [notes]))) fun e bare => ?_
  exact fills_pure bare

theorem operations_fill (orderly : Orderly w.convert) (path : Scalar) (shared : Item)
    (errors : List ErrorDefinition) (entries : Entries) :
    Tidies (operationsFrom w path shared errors entries)
      fun result => ∀ e ∈ result.1, e.metadata = none := by
  induction entries generalizing errors with
  | nil => exact fills_pure (by simp)
  | cons entry rest ih =>
      obtain ⟨name, node⟩ := entry
      unfold operationsFrom
      refine fills_bind tidies_of_except fun found _ => ?_
      split
      · refine fills_bind (endpoint_fills orderly path _ _ shared errors) fun result bare => ?_
        refine fills_bind (ih _) fun more bares => ?_
        exact fills_pure (List.forall_mem_cons.mpr ⟨bare, bares⟩)
      · exact ih errors

theorem endpoints_fill (orderly : Orderly w.convert) (errors : List ErrorDefinition) (paths : Entries) :
    Tidies (endpointsFrom w errors paths)
      fun result => ∀ e ∈ result.1, e.metadata = none := by
  induction paths generalizing errors with
  | nil => exact fills_pure (by simp)
  | cons entry rest ih =>
      obtain ⟨path, node⟩ := entry
      unfold endpointsFrom
      split
      · exact ih errors
      · refine fills_bind (operations_fill orderly path _ errors _) fun result bares => ?_
        refine fills_bind (ih _) fun more others => ?_
        exact fills_pure (List.forall_mem_append.mpr ⟨bares, others⟩)

end Endpoints

theorem metadata_tidy {g : Graph} {root : Entries} {options : FrontendOptions} {m : Metadata}
    (read : metadataOf g root options = .ok m) :
    m.generatedAt = none ∧ ∀ fields ∈ m.metadata,
      (fields.map Prod.fst).Nodup ∧ ∀ f ∈ fields, Text.isEncodable f.1 = true := by
  obtain ⟨info, -, read⟩ := bound_ok read
  obtain ⟨servers, -, read⟩ := bound_ok read
  obtain ⟨version, -, read⟩ := bound_ok read
  cases read
  refine ⟨rfl, fun fields same => ?_⟩
  cases same
  have names (keep : String × Value → Bool) (some : List (String × Value))
      (distinct : (some.map Prod.fst).Nodup) (plain : ∀ name ∈ some.map Prod.fst, Text.isEncodable name = true) :
      ((some.filter keep).map Prod.fst).Nodup ∧ ∀ f ∈ some.filter keep, Text.isEncodable f.1 = true :=
    ⟨distinct.sublist (List.filter_sublist.map Prod.fst),
      fun f member => plain f.1 (List.mem_map_of_mem (List.mem_of_mem_filter member))⟩
  cases servers with
  | nil =>
      refine names _ _ ?_ ?_
      · change ["title", "description", "termsOfService", "contact", "license"].Nodup
        decide
      · change ∀ name ∈ ["title", "description", "termsOfService", "contact", "license"],
          Text.isEncodable name = true
        decide
  | cons first rest =>
      refine names _ _ ?_ ?_
      · change ["title", "description", "termsOfService", "contact", "license", "servers", "baseUrl"].Nodup
        decide
      · change ∀ name ∈ ["title", "description", "termsOfService", "contact", "license", "servers",
          "baseUrl"], Text.isEncodable name = true
        decide

theorem convert_fills (d : Document) (options : FrontendOptions) :
    Tidies (OpenApi.convert d options) Schema.Tidy := by
  unfold OpenApi.convert
  refine fills_bind tidies_of_except fun components _ => ?_
  refine fills_bind tidies_of_except fun schemas _ => ?_
  refine fills_bind (components_fill d schemas) fun _ _ => ?_
  refine fills_bind tidies_of_except fun schemes _ => ?_
  refine fills_bind (schemes_fill d schemes) fun authentication known => ?_
  extract_lets surroundings
  refine fills_bind tidies_of_except fun paths _ => ?_
  have orderly : Orderly surroundings.convert := within_orderly d _
  refine fills_bind (endpoints_fill orderly [] paths) fun result bare => ?_
  refine fills_bind tidies_of_except fun metadata read => ?_
  obtain ⟨unmade, distinct⟩ := metadata_tidy read
  exact fills_types (fun _ => trivial) fun types tidy => ⟨unmade, distinct, tidy, bare, known, rfl⟩

theorem convert_tidy {d : Document} {options : FrontendOptions} {sch : Schema} {c : Context}
    (converted : (OpenApi.convert d options).run.run {} = (.ok sch, c)) : sch.Tidy := by
  have reached := convert_fills d options {} (filling_empty _ _) trivial
  rw [converted] at reached
  exact reached.2.2

end ApiSchema.OpenApi
