import ApiSchema.Proofs.Schema.Closed
import ApiSchema.Proofs.Target.Rendering

namespace ApiSchema

def FailsOnly {α : Type} (bad : Fault → Prop) (e : Except Fault α) : Prop := ∀ f, e = .error f → bad f

section FailsOnly

variable {α β : Type} {bad : Fault → Prop}

theorem fails_ok (a : α) : FailsOnly bad (.ok a : Except Fault α) := fun _ failed => by cases failed

theorem fails_bind {e : Except Fault α} {next : α → Except Fault β} (first : FailsOnly bad e)
    (rest : ∀ a, e = .ok a → FailsOnly bad (next a)) : FailsOnly bad (e >>= next) := by
  cases e with
  | error f =>
      intro g failed
      cases failed
      exact first f rfl
  | ok a => exact rest a rfl

theorem fails_map {e : Except Fault α} (f : α → β) (first : FailsOnly bad e) :
    FailsOnly bad (f <$> e) := by
  cases e with
  | error g =>
      intro h failed
      cases failed
      exact first g rfl
  | ok a => exact fails_ok (f a)

theorem fails_printed {short : Bool} {a : α} (long : short = false → bad (.misuse .value)) :
    FailsOnly bad (printed short a) := by
  cases short with
  | true => exact fails_ok a
  | false =>
      intro f failed
      cases failed
      exact long rfl

theorem fails_each {step : α → Except Fault β} (items : List α)
    (each : ∀ a ∈ items, FailsOnly bad (step a)) : FailsOnly bad (items.mapM step) := by
  induction items with
  | nil => exact fails_ok []
  | cons a rest ih =>
      rw [List.mapM_cons]
      refine fails_bind (each a (by simp)) fun b _ => ?_
      exact fails_bind (ih fun a' member => each a' (by simp [member])) fun bs _ => fails_ok _

end FailsOnly

def Shape.inward : Shape → List TypeRef
  | .object _ _ (some (.type ref)) _ => [ref]
  | .array items .. => [items]
  | .union variants .. => variants
  | _ => []

def TypeDefinition.followed (t : TypeDefinition) : List TypeRef :=
  match t.shape with
  | .object .. => if t.isPlaceholder || !Mapper.isFreeForm t.shape then [] else t.shape.inward
  | shape => shape.inward

theorem followed_inward {t : TypeDefinition} {ref : TypeRef} (member : ref ∈ t.followed) :
    ref ∈ t.shape.inward := by
  unfold TypeDefinition.followed at member
  split at member
  · split at member
    · cases member
    · exact member
  · exact member

theorem inward_site {shape : Shape} {ref : TypeRef} (member : ref ∈ shape.inward) (base : String) :
    ∃ site ∈ shape.sites base, site.ref = ref := by
  unfold Shape.inward at member
  split at member
  · exact ⟨_, List.mem_append_right _ (List.mem_singleton.mpr rfl), (List.mem_singleton.mp member).symm⟩
  · exact ⟨_, List.mem_singleton.mpr rfl, (List.mem_singleton.mp member).symm⟩
  next variants _ _ =>
    obtain ⟨n, below, same⟩ := List.mem_iff_getElem.mp member
    have placed : (ref, n) ∈ numbered variants :=
      List.mem_zipIdx_iff_getElem?.mpr (List.getElem?_eq_some_iff.mpr ⟨below, same⟩)
    exact ⟨_, List.mem_map.mpr ⟨(ref, n), placed, rfl⟩, rfl⟩
  · cases member

theorem type_site {s : Schema} {t : TypeDefinition} (listed : t ∈ s.types) {ref : TypeRef}
    (member : ref ∈ t.followed) : ∃ site ∈ s.sites, site.ref = ref := by
  obtain ⟨n, below, same⟩ := List.mem_iff_getElem.mp listed
  have placed : (t, n) ∈ numbered s.types :=
    List.mem_zipIdx_iff_getElem?.mpr (List.getElem?_eq_some_iff.mpr ⟨below, same⟩)
  obtain ⟨site, held, found⟩ := inward_site (followed_inward member) (indexed "types" n)
  refine ⟨site, ?_, found⟩
  exact List.mem_append_left _ (List.mem_append_left _ (List.mem_flatMap.mpr ⟨(t, n), placed, held⟩))

theorem definition_listed {s : Schema} {id : String} {d : TypeDefinition}
    (found : s.definition? id = some d) : d ∈ s.types ∧ d.id = id := by
  have member := List.mem_of_find?_eq_some found
  have same := List.find?_some found
  exact ⟨List.mem_reverse.mp member, by simpa using same⟩

theorem definition_missing {s : Schema} {id : String} (missing : s.definition? id = none) :
    id ∉ s.types.map (·.id) := by
  intro listed
  obtain ⟨t, member, same⟩ := List.mem_map.mp listed
  have none := List.find?_eq_none.mp missing t (List.mem_reverse.mpr member)
  simp [same] at none

namespace Mapper

variable {m : Mapper}

def Undefined (m : Mapper) (f : Fault) : Prop :=
  ∃ id, f = .mapping id m.language.name (some "type is not defined in the schema") ∧
    id ∉ m.schema.types.map (·.id)

theorem definition_fails (m : Mapper) (id : String) : FailsOnly m.Undefined (m.definition id) := by
  intro f failed
  unfold definition at failed
  split at failed
  next => cases failed
  next missing =>
    cases failed
    exact ⟨id, rfl, definition_missing missing⟩

theorem definition_defined {id : String} (listed : id ∈ m.schema.types.map (·.id)) :
    ∃ d, m.definition id = .ok d := by
  cases found : m.definition id with
  | ok d => exact ⟨d, rfl⟩
  | error f =>
      obtain ⟨other, rfl, missing⟩ := definition_fails m id f found
      unfold definition at found
      split at found
      next => cases found
      next =>
        cases found
        exact absurd listed missing

def outside (m : Mapper) (within : List String) : List TypeDefinition :=
  m.schema.types.filter fun t => !within.contains t.id

theorem outside_less {within : List String} {d : TypeDefinition} (listed : d ∈ m.schema.types)
    (apart : within.contains d.id = false) :
    (m.outside (d.id :: within)).length < (m.outside within).length := by
  have step : m.outside (d.id :: within) = (m.outside within).filter fun t => t.id != d.id := by
    simp only [outside, List.filter_filter]
    refine List.filter_congr fun t _ => ?_
    rw [List.contains_cons, Bool.not_or]
    rfl
  rw [step]
  refine List.length_filter_lt_length_iff_exists.mpr ⟨d, ?_, by simp⟩
  exact List.mem_filter.mpr ⟨listed, by rw [apart]; rfl⟩

/-- From a reference inside the types `within`, so many types are found one inside the other, each for
the first time, and none with an expression given for it. -/
inductive Descends (m : Mapper) : List String → TypeRef → Nat → Prop
  | here {within : List String} {ref : TypeRef} : m.Descends within ref 0
  | inward {within : List String} {ref inner : TypeRef} {d : TypeDefinition} {n : Nat} :
      m.schema.definition? ref.typeId = some d → m.customFor d = none → d.id ∉ within →
      inner ∈ d.followed → m.Descends (d.id :: within) inner n → m.Descends within ref (n + 1)

-- There is no way inward longer than there are types.
theorem descends_few {within : List String} {ref : TypeRef} {n : Nat} (deep : m.Descends within ref n) :
    n ≤ (m.outside within).length := by
  induction deep with
  | here => exact Nat.zero_le _
  | inward found _ apart _ _ ih =>
      have less := outside_less (definition_listed found).1 (by simpa using apart)
      omega

def Unprintable (m : Mapper) (d : TypeDefinition) : Prop :=
  m.capabilities.enumStrategy = .constants ∧ ∃ values kind, d.shape = .enum values kind ∧
    ∃ v ∈ values, v.value.toScalar.isShort = false

section Ends

variable {bad : Fault → Prop} {naming : String → String}

theorem named_ends {id : String} (known : FailsOnly bad (m.definition id)) :
    FailsOnly bad (m.named naming id) :=
  fails_map (fun _ => naming id) known

theorem enum_ends {name : String} {values : List EnumValue} {kind : EnumKind}
    (long : m.capabilities.enumStrategy = .constants → ∀ v ∈ values, v.value.toScalar.isShort = false →
      bad (.misuse .value)) :
    FailsOnly bad (enumOf m.language name values kind) := by
  unfold enumOf
  split
  · exact fails_ok _
  next constants =>
    refine fails_printed fun unprinted => ?_
    obtain ⟨v, member, long'⟩ : ∃ v ∈ values, v.value.toScalar.isShort = false := by simpa using unprinted
    exact long constants v member long'

theorem shape_ends {name : String → Except Fault String} {inner : TypeRef → Except Fault Mapped}
    {d : TypeDefinition} (naming : FailsOnly bad (name d.id))
    (long : m.Unprintable d → bad (.misuse .value))
    (each : ∀ ref ∈ d.followed, FailsOnly bad (inner ref)) :
    FailsOnly bad (m.mapShape name inner d) := by
  unfold mapShape
  cases same : d.shape with
  | primitive kind constraints => exact fails_ok _
  | «enum» values kind =>
      refine fails_bind naming fun own _ => ?_
      rw [of_except_same]
      exact enum_ends fun constants v member unprinted =>
        long ⟨constants, values, kind, same, v, member, unprinted⟩
  | array items => exact fails_map _ (each items (by simp [TypeDefinition.followed, same, Shape.inward]))
  | object properties required additional discriminator =>
      by_cases stub : d.isPlaceholder
      · simp only [if_pos stub]
        exact fails_ok _
      · simp only [if_neg stub]
        by_cases free : isFreeForm (.object properties required additional discriminator)
        · simp only [free, Bool.not_true, Bool.false_eq_true, if_false]
          split
          next _ ref =>
            exact fails_map _ (each ref (by simp [TypeDefinition.followed, same, stub, free, Shape.inward]))
          · exact fails_ok _
        · simp only [free, Bool.not_false, if_true]
          exact fails_map _ naming
  | union variants discriminator mapping =>
      refine fails_bind (fails_each variants fun ref member => ?_) fun made _ => ?_
      · exact each ref (by simpa [TypeDefinition.followed, same, Shape.inward] using member)
      · split
        · exact fails_ok _
        · exact fails_map _ naming

-- `good` ids are those that references met on the way may have.
theorem rendered_ends (good : String → Prop)
    (known : ∀ id, good id → FailsOnly bad (m.definition id))
    (inward : ∀ d ∈ m.schema.types, good d.id → ∀ ref ∈ d.followed, good ref.typeId)
    (long : ∀ d ∈ m.schema.types, m.Unprintable d → bad (.misuse .value))
    {fuel : Nat} {within : List String} {ref : TypeRef}
    (deep : m.Descends within ref fuel → bad (.misuse .depth)) (usage : Usage) (led : good ref.typeId) :
    FailsOnly bad (m.rendered naming fuel within ref usage) := by
  induction fuel generalizing within ref usage with
  | zero =>
      intro f failed
      cases failed
      exact deep .here
  | succ fuel ih =>
      refine fails_bind (known ref.typeId led) fun d found => ?_
      obtain ⟨listed, same⟩ := definition_listed (definition_found found)
      rw [← same] at led
      have name : FailsOnly bad (m.named naming d.id) := named_ends (known d.id led)
      refine fails_bind ?_ fun mapped _ => fails_ok _
      unfold renderedDefinition
      cases free : m.customFor d with
      | some expression => exact fails_ok _
      | none =>
          by_cases around : within.contains d.id = true
          · simp only [if_pos around]
            exact fails_map _ name
          · simp only [if_neg around]
            refine shape_ends name (long d listed) fun inner member => ?_
            refine ih (fun further => deep ?_) { nested := true } (inward d listed led inner member)
            exact .inward (definition_found found) free (by simpa using around) member further

end Ends

-- Some naming agrees with what has been given.
theorem naming_of (names : Names) : names.Agrees fun id => (names.name? id).getD "" := by
  intro id name known
  simp only [known, Option.getD_some]

/-- Why a mapping may stop on types that are all defined. -/
inductive Halts (m : Mapper) (ref : TypeRef) : Fault → Prop
  | depth : m.Descends m.within ref m.depth → m.Halts ref (.misuse .depth)
  | value {d : TypeDefinition} : d ∈ m.schema.types → m.Unprintable d → m.Halts ref (.misuse .value)

/-- What a call for the type `id` comes to: the types being mapped are as before, a fault is an
undefined id or one of `halts`, and there is an answer if every reference of the schema is defined, and
`id` too, and nothing else can stop it. -/
structure Ends {α : Type} (m : Mapper) (halts : Fault → Prop) (id : String)
    (outcome : Except Fault α × Mapper) : Prop where
  within : outcome.2.within = m.within
  faults : FailsOnly (fun f => m.Undefined f ∨ halts f) outcome.1
  answers : (∀ site ∈ m.schema.sites, site.ref.typeId ∈ m.schema.types.map (·.id)) →
    id ∈ m.schema.types.map (·.id) → (∀ f, ¬ halts f) → ∃ a, outcome.1 = .ok a

theorem ends_of_follows {α : Type} {halts : Fault → Prop} {id : String} {step : Mapping α}
    {value : (String → String) → Except Fault α} (follows : m.Follows m.within step value)
    (faults : ∀ naming, FailsOnly (fun f => m.Undefined f ∨ halts f) (value naming))
    (closed : (∀ site ∈ m.schema.sites, site.ref.typeId ∈ m.schema.types.map (·.id)) →
      id ∈ m.schema.types.map (·.id) → ∀ naming, FailsOnly halts (value naming)) :
    m.Ends halts id (m.run step) := by
  obtain ⟨within, _, same⟩ := follows m.toProgress rfl
  have value_of := same _ (naming_of (step.run.run m.toProgress).2.names)
  refine ⟨within, ?_, fun sites listed none => ?_⟩
  · change FailsOnly _ (step.run.run m.toProgress).1
    rw [value_of]
    exact faults _
  · change ∃ a, (step.run.run m.toProgress).1 = .ok a
    rw [value_of]
    have never := closed sites listed fun id => ((step.run.run m.toProgress).2.names.name? id).getD ""
    generalize value _ = e at never
    cases e with
    | ok a => exact ⟨a, rfl⟩
    | error f => exact (none f (never f rfl)).elim

theorem defined_never {bad : Fault → Prop} {id : String} (listed : id ∈ m.schema.types.map (·.id)) :
    FailsOnly bad (m.definition id) := by
  obtain ⟨d, found⟩ := definition_defined listed
  rw [found]
  exact fails_ok d

-- Where all references are defined, so are those met on the way.
theorem closed_ends {bad : Fault → Prop} {naming : String → String}
    (closed : ∀ site ∈ m.schema.sites, site.ref.typeId ∈ m.schema.types.map (·.id))
    (long : ∀ d ∈ m.schema.types, m.Unprintable d → bad (.misuse .value)) {fuel : Nat}
    {within : List String} {ref : TypeRef} (deep : m.Descends within ref fuel → bad (.misuse .depth))
    (usage : Usage) (listed : ref.typeId ∈ m.schema.types.map (·.id)) :
    FailsOnly bad (m.rendered naming fuel within ref usage) := by
  refine rendered_ends (fun id => id ∈ m.schema.types.map (·.id)) (fun id held => defined_never held)
    (fun d member _ inner held => ?_) long deep usage listed
  obtain ⟨site, there, same⟩ := type_site member held
  exact same ▸ closed site there

theorem type_ends (m : Mapper) (ref : TypeRef) (usage : Usage) :
    m.Ends (m.Halts ref) ref.typeId (m.run (m.mapType ref usage)) := by
  refine ends_of_follows (reference_follows m.depth m.within ref usage) (fun naming => ?_)
    fun closed listed naming => ?_
  · exact rendered_ends (fun _ => True) (fun id _ f failed => .inl (definition_fails m id f failed))
      (fun _ _ _ _ _ => trivial) (fun _ listed long => .inr (.value listed long))
      (fun deep => .inr (.depth deep)) usage trivial
  · exact closed_ends closed (fun _ => .value) .depth usage listed

theorem name_ends (m : Mapper) (id : String) : m.Ends (fun _ => False) id (m.run (m.typeName id)) :=
  ends_of_follows (follows_name id)
    (fun _ => named_ends fun f failed => .inl (definition_fails m id f failed))
    fun _ listed _ => named_ends (defined_never listed)

/-- Every call ends in an answer, on an id that the schema does not define, inside as many types as may
be mapped inside each other, or on a value that a constant cannot be named for; and the types being
mapped are those before it. Where the schema and the call refer to defined types only, there is an answer
if the way inward is not too long and all values can be printed. -/
theorem calls_end (m : Mapper) :
    (∀ ref usage, m.Ends (m.Halts ref) ref.typeId (m.run (m.mapType ref usage))) ∧
      (∀ id, m.Ends (fun _ => False) id (m.run (m.typeName id))) ∧
      ∀ p : Property, m.Ends (m.Halts p.type) p.type.typeId (m.run (m.mapProperty p)) :=
  ⟨type_ends m, name_ends m, fun p => type_ends m p.type { required := p.required }⟩

def endless (id : String) : TypeDefinition :=
  { id, name := "Rec", shape := .array ⟨id, false⟩ none none none }

def sampleMetadata : Metadata := { providerId := "p", providerName := "P", apiVersion := "1" }

def twins : Schema := { metadata := sampleMetadata, types := [endless "type_0", endless "type_1"] }

theorem twins_answer : ∃ mapped, ((make twins .java []).run
    ((make twins .java []).mapType ⟨"type_1", true⟩ { nested := true })).1 = .ok mapped := by
  refine ((calls_end (make twins .java [])).1 ⟨"type_1", true⟩ { nested := true }).answers
    (by decide +kernel) (by decide +kernel) fun f halts => ?_
  cases halts with
  | depth deep => exact absurd (descends_few deep) (by decide +kernel)
  | value listed long =>
      obtain ⟨_, values, kind, shaped, -⟩ := long
      have arrays : ∀ t ∈ twins.types, t.shape.kind = "array" := by decide +kernel
      have same := arrays _ listed
      rw [shaped] at same
      exact absurd same (by simp [Shape.kind])

def vast : Schema where
  metadata := sampleMetadata
  types := [{ id := "type_0", name := "Vast", shape := .enum [{ value := .int (.ofNat (tenTo digitLimit)), name := "v" }] .number }]

theorem vast_stops :
    (∀ site ∈ vast.sites, site.ref.typeId ∈ vast.types.map (·.id)) ∧
      "type_0" ∈ vast.types.map (·.id) ∧
      ((make vast .go []).run ((make vast .go []).mapType ⟨"type_0", false⟩ {})).1.toOption.isNone = true := by
  decide +kernel

end Mapper

end ApiSchema
