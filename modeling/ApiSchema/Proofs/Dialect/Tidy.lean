import ApiSchema.Dialect.Convert
import ApiSchema.Proofs.Conversion.Filling
import ApiSchema.Proofs.Schema.Carried

namespace ApiSchema.Dialect

abbrev Tidies {α : Type} (step : Conversion α) (post : α → Prop) : Prop :=
  Fills TypeDefinition.Tidy Fault.IsInternal step post

abbrev Shapes {α : Type} (step : Conversion α) (post : α → Prop) : Prop :=
  Fills TypeDefinition.Tidy (fun f => (∃ issue, f = .node issue) ∨ f.IsInternal) step post

def Orderly (convert : Convert) : Prop := ∀ source, Tidies (convert source) fun _ => True

variable {convert : Convert} {α : Type} {step : Conversion α} {post : α → Prop}

theorem shapes_of (kept : Tidies step post) : Shapes step post := fills_beyond kept fun _ => .inr

theorem properties_fill (orderly : Orderly convert) (properties : List (Field × TypeSource)) :
    Tidies (propertiesFrom convert properties) fun made => ∀ p ∈ made, p.metadata = none := by
  induction properties with
  | nil => exact fills_pure (by simp)
  | cons entry rest ih =>
      obtain ⟨field, source⟩ := entry
      unfold propertiesFrom
      refine fills_bind (orderly source) fun id _ => ?_
      exact fills_bind ih fun more bare => fills_pure (List.forall_mem_cons.mpr ⟨rfl, bare⟩)

theorem primitive_fills (about : About) :
    Shapes (buildPrimitive about) Shape.Tidy := by
  unfold buildPrimitive
  simp only
  split
  · exact fills_pure trivial
  · exact fills_bind (fills_record _) fun _ _ => fills_pure trivial

theorem reference_fills (orderly : Orderly convert) (source : TypeSource) :
    Tidies (refTo convert source) fun _ => True :=
  fills_bind (orderly source) fun _ _ => fills_pure trivial

theorem enum_kind_tidy {values : List EnumValue} (short : ∀ v ∈ values, v.value.toScalar.isShort = true) :
    (Shape.enum values (enumKindOf values)).Tidy := by
  refine ⟨?_, short⟩
  cases values with
  | nil => simp [enumKindOf]
  | cons v rest => cases text : v.value.isText <;> simp [enumKindOf, text]

theorem enum_fills (values : List EnumValue) :
    Tidies (ofExcept (enumOf values)) Shape.Tidy := by
  unfold enumOf printed
  split
  next short => exact fills_pure (enum_kind_tidy (List.all_eq_true.mp short))
  · exact fills_throw trivial

theorem shape_fills (orderly : Orderly convert) (about : About) (properties : List (Field × TypeSource))
    (items variants : List TypeSource) :
    Shapes (buildShape convert about properties items variants) Shape.Tidy := by
  unfold buildShape
  split
  · exact fills_throw (.inl ⟨_, rfl⟩)
  · split
    · exact shapes_of (enum_fills _)
    · split
      · refine fills_bind (shapes_of (properties_fill orderly properties)) fun made bare => fills_pure fun p member => ?_
        obtain ⟨q, held, rfl⟩ := List.mem_map.mp member
        exact bare q held
      · split
        · split
          · exact fills_bind (shapes_of (reference_fills orderly _)) fun _ _ => fills_pure trivial
          · exact fills_throw (.inl ⟨_, rfl⟩)
        · split
          · refine fills_bind (fills_each variants fun source _ => shapes_of (reference_fills orderly source)) ?_
            exact fun _ _ => fills_pure (by simp [Shape.Tidy])
          · exact primitive_fills about

theorem definition_fills (orderly : Orderly convert) (named : List (String × TypeSource)) (about : About)
    (properties : List (Field × TypeSource)) (items variants : List TypeSource) :
    Tidies (definitionId named convert about properties items variants) fun _ => True := by
  unfold definitionId
  refine fills_resolve tidy_placeholder (fun id => ?_) (fun _ => id) fun _ => id
  exact fills_bind (shape_fills orderly about properties items variants) fun shape tidy =>
    fills_pure ⟨.inl rfl, tidy⟩

theorem unnamed_fills (name : String) : Tidies (unnamedId name) fun _ => True := by
  unfold unnamedId
  simp only
  split
  · exact fills_resolve tidy_placeholder (fun id => fills_pure ⟨.inl rfl, trivial⟩) (fun _ => id) fun _ => .inr
  · exact fills_placeholder tidy_placeholder _ _ _ _

theorem within_orderly (named : List (String × TypeSource)) (fuel : Nat) : Orderly (convertWithin named fuel) := by
  induction fuel with
  | zero => exact fun _ => fills_throw trivial
  | succ fuel ih =>
      intro source
      cases source with
      | definition about properties items variants => exact definition_fills ih named about properties items variants
      | name s =>
          unfold convertWithin
          simp only
          split
          · exact definition_fills ih named _ _ _ _
          · exact unnamed_fills s

theorem parameter_fills (orderly : Orderly convert) (e : String) (p : DialectParameter) :
    Tidies (parameterType convert e p) fun _ => True := by
  unfold parameterType
  split
  · exact orderly _
  · exact orderly _
  · refine fills_bind (enum_fills _) fun shape tidy => ?_
    exact fills_resolve tidy_placeholder (fun id => fills_pure ⟨.inl rfl, tidy⟩) (fun _ => id) fun _ => .inr

theorem parameters_fill (orderly : Orderly convert) (e : String) (parameters : List DialectParameter) :
    Tidies (parametersFrom convert e parameters) fun _ => True := by
  induction parameters with
  | nil => exact fills_pure trivial
  | cons p rest ih =>
      unfold parametersFrom
      refine fills_bind (parameter_fills orderly e p) fun _ _ => ?_
      exact fills_bind ih fun _ _ => fills_pure trivial

theorem response_fills (orderly : Orderly convert) (r : DialectResponse) :
    Tidies (responseOf convert r) fun _ => True := by
  unfold responseOf
  cases r.type with
  | none => exact fills_pure trivial
  | some source =>
      have typed : Tidies (some <$> refTo convert source) fun _ => True :=
        fills_map (reference_fills orderly source)
      exact fills_bind typed fun _ _ => fills_pure trivial

theorem endpoint_fills (orderly : Orderly convert) (e : DialectEndpoint) :
    Tidies (endpointOf convert e) fun made => ∀ m ∈ made, m.metadata = none := by
  unfold endpointOf
  extract_lets upper
  split
  · exact fills_bind (fills_warn _) fun _ _ => fills_pure (by simp)
  · refine fills_bind (parameters_fill orderly e.id e.parameters) fun parameters _ => ?_
    extract_lets finish
    have finished (body : Option RequestBody) :
        Tidies (finish body) fun made => ∀ m ∈ made, m.metadata = none := by
      refine fills_bind (fills_each e.responses fun r _ => response_fills orderly r) fun responses _ => ?_
      refine fills_pure fun m same => ?_
      cases same
      rfl
    split
    · exact fills_bind (reference_fills orderly _) fun _ _ => finished _
    · exact finished none

theorem endpoints_fill (orderly : Orderly convert) (includeDeprecated : Bool) (endpoints : List DialectEndpoint) :
    Tidies (endpointsFrom convert includeDeprecated endpoints)
      fun made => ∀ m ∈ made, m.metadata = none := by
  induction endpoints with
  | nil => exact fills_pure (by simp)
  | cons e rest ih =>
      unfold endpointsFrom
      split
      · exact ih
      · refine fills_bind (endpoint_fills orderly e) fun made bare => ?_
        refine fills_bind ih fun more others => ?_
        refine fills_pure (List.forall_mem_append.mpr ⟨fun m member => ?_, others⟩)
        exact bare m (Option.mem_toList.mp member)

theorem metadata_named {d : DialectDocument} {options : FrontendOptions} :
    ∀ fields ∈ (metadataOf d options).metadata,
      (fields.map Prod.fst).Nodup ∧ ∀ f ∈ fields, Text.isEncodable f.1 = true := by
  have plain : ∀ name ∈ ["baseUrl", "description", "models"], Text.isEncodable name = true := by decide
  intro fields same
  cases same
  by_cases none : d.models = []
  · cases d.description <;> simp [none, plain]
  · cases d.description <;> simp [none, plain]

theorem convert_fills (d : DialectDocument) (options : FrontendOptions) :
    Tidies (Dialect.convert d options) Schema.Tidy := by
  unfold Dialect.convert
  extract_lets convert
  have orderly : Orderly convert := within_orderly _ _
  refine fills_bind (fills_each d.types fun source _ => orderly source) fun _ _ => ?_
  refine fills_bind (endpoints_fill orderly _ _) fun endpoints bare => ?_
  refine fills_types (fun _ => trivial) fun types tidy => ⟨rfl, metadata_named, tidy, bare, ?_, rfl⟩
  intro a member
  cases List.mem_singleton.mp member
  exact fun impossible => by cases impossible

theorem convert_tidy {d : DialectDocument} {options : FrontendOptions} {s : Schema} {c : Context}
    (converted : (Dialect.convert d options).run.run {} = (.ok s, c)) : s.Tidy := by
  have reached := convert_fills d options {} (filling_empty _ _) trivial
  rw [converted] at reached
  exact reached.2.2

end ApiSchema.Dialect
