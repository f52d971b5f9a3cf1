import ApiSchema.Proofs.Schema.RoundTrip

namespace ApiSchema

def Constraints.carried (c : Constraints) : List Value :=
  c.minimum.toList.map .float ++ c.maximum.toList.map .float ++
    c.exclusiveMinimum.toList.map Bound.toValue ++ c.exclusiveMaximum.toList.map Bound.toValue ++
    c.multipleOf.toList.map .float ++ (c.enum.getD []).map Literal.toValue

def carriedLimits (limits : Option Constraints) : List Value := limits.toList.flatMap Constraints.carried

def Property.carried (p : Property) : List Value := p.default.toList ++ carriedLimits p.constraints

def Shape.carried : Shape → List Value
  | .primitive _ limits => carriedLimits limits
  | .object properties .. => properties.flatMap Property.carried
  | .enum values _ => values.map (·.value.toValue)
  | .array .. | .union .. => []

def Endpoint.carried (e : Endpoint) : List Value := e.parameters.flatMap (·.default.toList)

def Metadata.carried (m : Metadata) : List Value := m.metadata.toList.flatMap (·.map Prod.snd)

def Schema.carried (s : Schema) : List Value :=
  s.metadata.carried ++ s.types.flatMap (·.shape.carried) ++ s.endpoints.flatMap Endpoint.carried

def Shape.Tidy : Shape → Prop
  | .object properties .. => ∀ p ∈ properties, p.metadata = none
  | .union _ _ mapping => ∀ entries ∈ mapping, Distinct entries
  | .enum values kind => (kind = .string ↔ ∀ v ∈ values.head?, v.value.isText = true) ∧
      ∀ v ∈ values, v.value.toScalar.isShort = true
  | .primitive .. | .array .. => True

structure TypeDefinition.Tidy (t : TypeDefinition) : Prop where
  metadata : t.metadata = none ∨
    ∃ reason, t.metadata = some [("placeholder", .bool true), ("reason", .text reason)]
  shape : t.shape.Tidy

structure Schema.Tidy (s : Schema) : Prop where
  generatedAt : s.metadata.generatedAt = none
  about : ∀ fields ∈ s.metadata.metadata,
    (fields.map Prod.fst).Nodup ∧ ∀ f ∈ fields, Text.isEncodable f.1 = true
  types : ∀ t ∈ s.types, t.Tidy
  endpoints : ∀ e ∈ s.endpoints, e.metadata = none
  authentication : ∀ a ∈ s.authentication, a.kind.IsJson
  config : s.config = none

theorem tidy_placeholder (id name reason : String) : (placeholderType id name reason).Tidy where
  metadata := .inr ⟨reason, rfl⟩
  shape _ impossible := by cases impossible

theorem scalar_plain {s : Scalar} : (Value.scalar s).IsPlain plainLevels ↔ s.IsJson := Iff.rfl

theorem bound_plain {b : Bound} : b.toValue.IsPlain plainLevels ↔ b.IsJson := by
  cases b <;> exact Iff.rfl

theorem literal_plain {l : Literal} : l.toValue.IsPlain plainLevels ↔ l.IsJson := Iff.rfl

theorem constraints_carried {c : Constraints} : c.IsJson ↔ ∀ v ∈ c.carried, v.IsPlain plainLevels := by
  simp only [Constraints.carried, List.forall_mem_append, List.forall_mem_map, Option.mem_toList,
    bound_plain, literal_plain]
  constructor
  · rintro ⟨least, most, above, below, step, listed⟩
    refine ⟨⟨⟨⟨⟨least, most⟩, above⟩, below⟩, step⟩, fun l member => ?_⟩
    cases given : c.enum with
    | none => simp [given] at member
    | some values =>
        rw [given] at member
        exact listed values given l member
  · rintro ⟨⟨⟨⟨⟨least, most⟩, above⟩, below⟩, step⟩, listed⟩
    refine ⟨least, most, above, below, step, fun values given l member => ?_⟩
    rw [Option.mem_def.mp given] at listed
    exact listed l member

theorem limits_carried {limits : Option Constraints} :
    (∀ c ∈ limits, c.IsJson) ↔ ∀ v ∈ carriedLimits limits, v.IsPlain plainLevels := by
  simp only [carriedLimits, List.forall_mem_flatMap, Option.mem_toList, Option.mem_def, constraints_carried]

theorem property_carried {p : Property} (bare : p.metadata = none) :
    p.IsJson ↔ ∀ v ∈ p.carried, v.IsPlain plainLevels := by
  rw [Property.carried, List.forall_mem_append, ← limits_carried]
  simp only [Option.mem_toList]
  constructor
  · rintro ⟨limits, -, default⟩
    exact ⟨default, limits⟩
  · rintro ⟨default, limits⟩
    exact ⟨limits, by simp [bare], default⟩

theorem shape_carried {shape : Shape} (tidy : shape.Tidy) :
    shape.IsJson ↔ ∀ v ∈ shape.carried, v.IsPlain plainLevels := by
  cases shape with
  | primitive kind limits => exact limits_carried
  | object properties required further discriminator =>
      rw [Shape.carried, List.forall_mem_flatMap]
      exact forall₂_congr fun p member => property_carried (tidy p member)
  | array items least most unique => exact iff_of_true trivial (by simp [Shape.carried])
  | union variants discriminator mapping => exact iff_of_true tidy (by simp [Shape.carried])
  | enum values kind =>
      rw [Shape.carried, List.forall_mem_map]
      exact forall₂_congr fun v member => literal_plain.symm

theorem type_carried {t : TypeDefinition} (tidy : t.Tidy) :
    t.IsJson ↔ ∀ v ∈ t.shape.carried, v.IsPlain plainLevels := by
  have free : ∀ fields ∈ t.metadata, fields.IsPlain := by
    intro fields given
    rcases tidy.metadata with none | ⟨reason, stub⟩
    · rw [none] at given
      cases given
    · rw [stub] at given
      cases given
      refine ⟨by simp, fun f member => ?_⟩
      simp only [List.mem_cons, List.not_mem_nil, or_false] at member
      rcases member with rfl | rfl
      · exact ⟨(by decide : Text.isEncodable "placeholder" = true), scalar_plain.mpr trivial⟩
      · exact ⟨(by decide : Text.isEncodable "reason" = true), scalar_plain.mpr trivial⟩
  rw [← shape_carried tidy.shape]
  exact ⟨TypeDefinition.IsJson.shape, fun shape => ⟨free, shape⟩⟩

theorem endpoint_carried {e : Endpoint} (bare : e.metadata = none) :
    e.IsJson ↔ ∀ v ∈ e.carried, v.IsPlain plainLevels := by
  simp only [Endpoint.carried, List.forall_mem_flatMap, Option.mem_toList]
  exact ⟨Endpoint.IsJson.parameters, fun parameters => ⟨parameters, by simp [bare]⟩⟩

-- Once it is known when it was made, a tidy schema has a JSON form just when all that it carries has.
theorem stamped_json {s : Schema} (tidy : s.Tidy) {now : Moment} (universal : now.IsUniversal) :
    (s.stamped now).IsJson ↔ ∀ v ∈ s.carried, v.IsPlain plainLevels := by
  simp only [Schema.carried, List.forall_mem_append, List.forall_mem_flatMap]
  have about : (∀ fields ∈ s.metadata.metadata, fields.IsPlain) ↔ ∀ v ∈ s.metadata.carried, v.IsPlain plainLevels := by
    simp only [Metadata.carried, List.forall_mem_flatMap, Option.mem_toList, List.forall_mem_map]
    refine forall₂_congr fun fields given => ?_
    obtain ⟨distinct, named⟩ := tidy.about fields given
    exact ⟨fun plain f member => (plain.2 f member).2,
      fun each => ⟨distinct, fun f member => ⟨named f member, each f member⟩⟩⟩
  have types := forall₂_congr fun t member => type_carried (tidy.types t member)
  have endpoints := forall₂_congr fun e member => endpoint_carried (tidy.endpoints e member)
  rw [← about, ← types, ← endpoints]
  constructor
  · rintro ⟨⟨-, free⟩, types, endpoints, -, -⟩
    exact ⟨⟨free, types⟩, endpoints⟩
  · rintro ⟨⟨free, types⟩, endpoints⟩
    refine ⟨⟨fun t made => ?_, free⟩, types, endpoints, tidy.authentication, ?_⟩
    · rw [Schema.stamped, tidy.generatedAt] at made
      cases made
      exact universal
    · change ∀ fields ∈ s.config, fields.IsPlain
      rw [tidy.config]
      exact fun _ none => nomatch none

end ApiSchema
