import ApiSchema.Conversion.Context
import ApiSchema.Schema.References

namespace ApiSchema

def Shape.mappedIds : Shape → List String
  | .union _ _ (some mapping) => mapping.map Prod.snd
  | _ => []

def Schema.heldIds (s : Schema) : List String :=
  s.sites.map (·.ref.typeId) ++ s.types.flatMap (·.shape.mappedIds)

def Shape.FlagsAgree : Shape → Prop
  | .object properties required _ _ => ∀ p ∈ properties, p.required = required.contains p.name
  | _ => True

instance (shape : Shape) : Decidable shape.FlagsAgree := by
  unfold Shape.FlagsAgree
  split <;> infer_instance

/-- The flags of the properties say what the required list says; odd names may be in the list
without a flag. -/
def Shape.FlagsAgreeSave (odd : String → Prop) : Shape → Prop
  | .object properties required _ _ => ∀ p ∈ properties,
      (p.required = true → p.name ∈ required) ∧ (p.name ∈ required → p.required = true ∨ odd p.name)
  | _ => True

structure Schema.Closed (odd : TypeDefinition → String → Prop) (s : Schema) : Prop where
  ids : s.types.map (·.id) = (List.range s.types.length).map typeIdOf
  types : ∀ id ∈ s.heldIds, id ∈ s.types.map (·.id)
  schemes : ∀ e ∈ s.endpoints, ∀ id ∈ e.authentication, id ∈ s.authentication.map (·.id)
  flags : ∀ t ∈ s.types, t.shape.FlagsAgreeSave (odd t)

theorem numbered_member {α : Type} {items : List α} {entry : α × Nat}
    (member : entry ∈ numbered items) : entry.1 ∈ items :=
  List.fst_mem_of_mem_zipIdx member

theorem shape_site {base : String} {shape : Shape} {site : Site} (member : site ∈ shape.sites base) :
    (∃ properties required additional discriminator,
      shape = .object properties required additional discriminator ∧
        ((∃ p ∈ properties, site.ref = p.type) ∨ additional = some (.type site.ref))) ∨
    (∃ least most unique, shape = .array site.ref least most unique) ∨
    ∃ variants discriminator mapping, shape = .union variants discriminator mapping ∧
      site.ref ∈ variants := by
  cases shape with
  | primitive => cases member
  | «enum» => cases member
  | array items least most unique =>
      rw [List.mem_singleton.mp member]
      exact .inr (.inl ⟨least, most, unique, rfl⟩)
  | union variants discriminator mapping =>
      obtain ⟨entry, held, rfl⟩ := List.mem_map.mp member
      exact .inr (.inr ⟨variants, discriminator, mapping, rfl, numbered_member held⟩)
  | object properties required additional discriminator =>
      refine .inl ⟨properties, required, additional, discriminator, rfl, ?_⟩
      obtain held | held := List.mem_append.mp member
      · obtain ⟨entry, there, rfl⟩ := List.mem_map.mp held
        exact .inl ⟨entry.1, numbered_member there, rfl⟩
      · split at held
        · rw [List.mem_singleton.mp held]
          exact .inr rfl
        · cases held

theorem response_site {base : String} {r : Response} {site : Site} (member : site ∈ r.sites base) :
    r.type = some site.ref ∨
      ∃ headers, r.headers = some headers ∧ ∃ h ∈ headers, site.ref = h.type := by
  obtain held | held := List.mem_append.mp member
  · split at held
    next ref typed =>
      rw [List.mem_singleton.mp held]
      exact .inl typed
    · cases held
  · obtain ⟨entry, there, rfl⟩ := List.mem_map.mp held
    have listed := numbered_member there
    cases headers : r.headers with
    | none =>
        rw [headers] at listed
        cases listed
    | some all =>
        rw [headers] at listed
        exact .inr ⟨all, rfl, entry.1, listed, rfl⟩

theorem endpoint_site {base : String} {e : Endpoint} {site : Site} (member : site ∈ e.sites base) :
    (∃ p ∈ e.parameters, site.ref = p.type) ∨
      (∃ body, e.requestBody = some body ∧ site.ref = body.type) ∨
      ∃ r ∈ e.responses, ∃ place, site ∈ r.sites place := by
  obtain front | held := List.mem_append.mp member
  · obtain held | held := List.mem_append.mp front
    · obtain ⟨entry, there, rfl⟩ := List.mem_map.mp held
      exact .inl ⟨entry.1, numbered_member there, rfl⟩
    · split at held
      next body same =>
        rw [List.mem_singleton.mp held]
        exact .inr (.inl ⟨body, same, rfl⟩)
      · cases held
  · obtain ⟨entry, there, held⟩ := List.mem_flatMap.mp held
    exact .inr (.inr ⟨entry.1, numbered_member there, _, held⟩)

theorem schema_site {s : Schema} {site : Site} (member : site ∈ s.sites) :
    (∃ t ∈ s.types, ∃ base, site ∈ t.shape.sites base) ∨
      (∃ e ∈ s.endpoints, ∃ base, site ∈ e.sites base) ∨
      ∃ e ∈ s.errors, e.type = some site.ref := by
  obtain front | held := List.mem_append.mp member
  · obtain held | held := List.mem_append.mp front
    · obtain ⟨entry, there, held⟩ := List.mem_flatMap.mp held
      exact .inl ⟨entry.1, numbered_member there, _, held⟩
    · obtain ⟨entry, there, held⟩ := List.mem_flatMap.mp held
      exact .inr (.inl ⟨entry.1, numbered_member there, _, held⟩)
  · obtain ⟨entry, there, held⟩ := List.mem_flatMap.mp held
    refine .inr (.inr ⟨entry.1, numbered_member there, ?_⟩)
    simp only [ErrorDefinition.sites] at held
    split at held
    next ref typed =>
      rw [List.mem_singleton.mp held]
      exact typed
    · cases held

end ApiSchema
