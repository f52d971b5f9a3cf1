import ApiSchema.Proofs.Schema.Reading

/-!
What is written of a schema is a value of JSON.

The free-form parts have to be values of JSON themselves, and so have the floats: `IsJson` says so
for each record that holds any. Everything else about a record always has a JSON form.
-/

namespace ApiSchema

def Fields.IsPlain (fields : Fields) : Prop :=
  (fields.map Prod.fst).Nodup ∧ ∀ f ∈ fields, Text.isEncodable f.1 = true ∧ f.2.IsPlain plainLevels

def Literal.IsJson (l : Literal) : Prop := l.toScalar.IsJson

def Bound.IsJson : Bound → Prop
  | .flag _ => True
  | .number x => x.ReadsBack

structure Constraints.IsJson (c : Constraints) : Prop where
  minimum : ∀ x ∈ c.minimum, x.ReadsBack
  maximum : ∀ x ∈ c.maximum, x.ReadsBack
  exclusiveMinimum : ∀ b ∈ c.exclusiveMinimum, b.IsJson
  exclusiveMaximum : ∀ b ∈ c.exclusiveMaximum, b.IsJson
  multipleOf : ∀ x ∈ c.multipleOf, x.ReadsBack
  enum : ∀ values ∈ c.enum, ∀ l ∈ values, l.IsJson

structure Property.IsJson (p : Property) : Prop where
  constraints : ∀ c ∈ p.constraints, c.IsJson
  metadata : ∀ fields ∈ p.metadata, fields.IsPlain
  default : ∀ v ∈ p.default, v.IsPlain plainLevels

def Distinct (entries : List (String × String)) : Prop := (entries.map Prod.fst).Nodup

def Shape.IsJson : Shape → Prop
  | .primitive _ constraints => ∀ c ∈ constraints, c.IsJson
  | .object properties .. => ∀ p ∈ properties, p.IsJson
  | .array .. => True
  | .union _ _ mapping => ∀ entries ∈ mapping, Distinct entries
  | .enum values _ => ∀ v ∈ values, v.value.IsJson

structure TypeDefinition.IsJson (t : TypeDefinition) : Prop where
  metadata : ∀ fields ∈ t.metadata, fields.IsPlain
  shape : t.shape.IsJson

structure Endpoint.IsJson (e : Endpoint) : Prop where
  parameters : ∀ p ∈ e.parameters, ∀ v ∈ p.default, v.IsPlain plainLevels
  metadata : ∀ fields ∈ e.metadata, fields.IsPlain

def AuthKind.IsJson : AuthKind → Prop
  | .apiKey location _ => location ≠ .path
  | .oauth2 flows => ∀ f ∈ flows, ∀ entries ∈ f.scopes, Distinct entries
  | .bearer .. | .basic => True

theorem AuthKind.IsJson.no_path {k : AuthKind} (json : k.IsJson) :
    ∀ location name, k = .apiKey location name → location ≠ .path := by
  rintro location name rfl
  exact json

theorem AuthKind.IsJson.distinct {k : AuthKind} (json : k.IsJson) :
    ∀ flows, k = .oauth2 flows → ∀ f ∈ flows, ∀ entries ∈ f.scopes, Distinct entries := by
  rintro flows rfl
  exact json

structure Metadata.IsJson (m : Metadata) : Prop where
  generatedAt : ∀ t ∈ m.generatedAt, t.IsUniversal
  metadata : ∀ fields ∈ m.metadata, fields.IsPlain

/-- A schema whose parts all have a JSON form: floats are finite, free-form values are values of
JSON that nest no deeper than is written, and the time of generation is one of universal time. -/
structure Schema.IsJson (s : Schema) : Prop where
  metadata : s.metadata.IsJson
  types : ∀ t ∈ s.types, t.IsJson
  endpoints : ∀ e ∈ s.endpoints, e.IsJson
  authentication : ∀ a ∈ s.authentication, a.kind.IsJson
  config : ∀ fields ∈ s.config, fields.IsPlain

theorem map_json {entries : List (Scalar × Value)} :
    (Value.map entries).IsJson ↔ (∀ e ∈ entries, ∃ name, e.1 = .text name) ∧
      (entries.map Prod.fst).Nodup ∧ ∀ e ∈ entries, e.2.IsJson := by
  constructor
  · rintro (_ | _ | ⟨named, distinct, each⟩)
    exact ⟨named, distinct, each⟩
  · rintro ⟨named, distinct, each⟩
    exact .map named distinct each

theorem lookup_fresh {entries : List (Scalar × Value)} {name : String}
    (named : ∀ e ∈ entries, ∃ n, e.1 = .text n) :
    lookup? entries (.text name) = none ↔ .text name ∉ entries.map Prod.fst := by
  induction entries with
  | nil => simp
  | cons entry rest ih =>
      obtain ⟨key, v⟩ := entry
      obtain ⟨n, rfl⟩ : ∃ n, key = .text n := named (key, v) (by simp)
      rw [lookup_text]
      by_cases same : n = name
      · simp [same]
      · have other : name ≠ n := fun flipped => same flipped.symm
        rw [if_neg same, ih fun e member => named e (by simp [member])]
        simp [other]

theorem map_cons_json {name : String} {v : Value} {rest : List (Scalar × Value)} :
    (Value.map ((.text name, v) :: rest)).IsJson ↔
      v.IsJson ∧ lookup? rest (.text name) = none ∧ (Value.map rest).IsJson := by
  simp only [map_json, List.forall_mem_cons, List.map_cons, List.nodup_cons]
  constructor
  · rintro ⟨⟨_, named⟩, ⟨fresh, distinct⟩, json, each⟩
    exact ⟨json, (lookup_fresh named).mpr fresh, named, distinct, each⟩
  · rintro ⟨json, fresh, named, distinct, each⟩
    exact ⟨⟨⟨name, rfl⟩, named⟩, ⟨(lookup_fresh named).mp fresh, distinct⟩, json, each⟩

theorem map_nil_json : (Value.map []).IsJson := .map (by simp) (by simp) (by simp)

section Entries

variable {α : Type} {name : String} {rest : List (Scalar × Value)}

theorem json_field {v : Value} : (Value.map (field name v ++ rest)).IsJson ↔
    v.IsJson ∧ lookup? rest (.text name) = none ∧ (Value.map rest).IsJson := map_cons_json

theorem json_optional {write : α → Value} {o : Option α} (fresh : lookup? rest (.text name) = none)
    (json : ∀ a, o = some a → (write a).IsJson) :
    (Value.map (field? name write o ++ rest)).IsJson ↔ (Value.map rest).IsJson := by
  cases o with
  | none => rfl
  | some a =>
      rw [field?, json_field]
      simp [fresh, json a rfl]

theorem json_last {v : Value} : (Value.map (field name v)).IsJson ↔ v.IsJson := by
  rw [field, map_cons_json]
  simp [map_nil_json]

theorem json_last_optional {write : α → Value} {o : Option α} (json : ∀ a, o = some a → (write a).IsJson) :
    (Value.map (field? name write o)).IsJson := by
  cases o with
  | none => exact map_nil_json
  | some a => exact json_last.mpr (json a rfl)

end Entries

@[simp] theorem text_json (s : String) : (Value.text s).IsJson := .scalar trivial
@[simp] theorem int_json (n : Int) : (Value.int n).IsJson := .scalar trivial
@[simp] theorem bool_json (b : Bool) : (Value.bool b).IsJson := .scalar trivial

theorem float_json {x : Binary64} (back : x.ReadsBack) : (Value.float x).IsJson := .scalar back

theorem list_json {α : Type} {write : α → Value} {items : List α}
    (each : ∀ a ∈ items, (write a).IsJson) : (Value.list (items.map write)).IsJson := by
  refine .list fun v member => ?_
  obtain ⟨a, listed, rfl⟩ := List.mem_map.mp member
  exact each a listed

@[simp] theorem strings_json (items : List String) : (Value.strings items).IsJson :=
  list_json fun s _ => text_json s

theorem named_json {α : Type} {write : α → Value} {fields : List (String × α)} :
    (Value.map (fields.map fun (k, a) => (.text k, write a))).IsJson ↔
      (fields.map Prod.fst).Nodup ∧ ∀ f ∈ fields, (write f.2).IsJson := by
  have keys : ((fields.map fun (k, a) => (Scalar.text k, write a)).map Prod.fst).Nodup ↔
      (fields.map Prod.fst).Nodup := by
    have same : (fields.map fun (k, a) => (Scalar.text k, write a)).map Prod.fst =
        (fields.map Prod.fst).map Scalar.text := by
      rw [List.map_map, List.map_map]
      rfl
    rw [same]
    exact ⟨List.Pairwise.of_map Scalar.text fun _ _ apart same => apart (congrArg Scalar.text same),
      List.Pairwise.map Scalar.text fun _ _ apart same => apart (Scalar.text.inj same)⟩
  rw [map_json, keys]
  simp only [List.forall_mem_map]
  exact ⟨fun ⟨_, distinct, each⟩ => ⟨distinct, each⟩,
    fun ⟨distinct, each⟩ => ⟨fun _ _ => ⟨_, rfl⟩, distinct, each⟩⟩

theorem fields_json {fields : Fields} (plain : fields.IsPlain) : (fieldsValue fields).IsJson :=
  (@named_json Value id fields).mpr ⟨plain.1, fun f member => plain_is_json (plain.2 f member).2⟩

theorem text_map_json {entries : List (String × String)} (distinct : Distinct entries) :
    (textMap entries).IsJson :=
  named_json.mpr ⟨distinct, fun f _ => text_json f.2⟩

theorem literal_json {l : Literal} (json : l.IsJson) : l.toValue.IsJson := .scalar json

theorem bound_json {b : Bound} (json : b.IsJson) : b.toValue.IsJson := by
  cases b with
  | flag b => exact bool_json b
  | number x => exact .scalar json

theorem constraints_json {c : Constraints} (json : c.IsJson) : c.dump.IsJson := by
  have least (x) (given : c.minimum = some x) := float_json (json.minimum x given)
  have most (x) (given : c.maximum = some x) := float_json (json.maximum x given)
  have above (b) (given : c.exclusiveMinimum = some b) := bound_json (json.exclusiveMinimum b given)
  have below (b) (given : c.exclusiveMaximum = some b) := bound_json (json.exclusiveMaximum b given)
  have step (x) (given : c.multipleOf = some x) := float_json (json.multipleOf x given)
  have listed (values) (given : c.enum = some values) :
      (Value.list (values.map Literal.toValue)).IsJson :=
    list_json fun l member => literal_json (json.enum values given l member)
  simp +contextual [Constraints.dump, json_optional, json_last_optional,
    least, most, above, below, step, listed]

@[simp] theorem type_ref_json (r : TypeRef) : r.dump.IsJson := by
  simp [TypeRef.dump, json_field, json_last]

@[simp] theorem additional_json (a : Additional) : a.dump.IsJson := by
  cases a with
  | type ref => exact type_ref_json ref
  | allowed b => exact bool_json b

theorem enum_value_json {v : EnumValue} (json : v.value.IsJson) : v.dump.IsJson := by
  simp [EnumValue.dump, json_field, json_optional, json_last_optional,
    literal_json json]

@[simp] theorem request_body_json (b : RequestBody) : b.dump.IsJson := by
  simp [RequestBody.dump, json_field, json_last_optional]

@[simp] theorem header_json (h : Header) : h.dump.IsJson := by
  simp [Header.dump, json_field, json_last_optional]

@[simp] theorem status_json (s : Status) : s.toValue.IsJson := by
  cases s with
  | code n => exact int_json n
  | text s => exact text_json s

@[simp] theorem response_json (r : Response) : r.dump.IsJson := by
  have headers (listed : List Header) := list_json fun h (_ : h ∈ listed) => header_json h
  simp [Response.dump, json_field, json_optional, json_last_optional, headers]

@[simp] theorem rate_limit_json (r : RateLimit) : r.dump.IsJson := by
  simp [RateLimit.dump, json_field, json_last_optional]

theorem flow_json {f : Flow} (json : ∀ entries ∈ f.scopes, Distinct entries) : f.dump.IsJson := by
  have scopes (entries) (given : f.scopes = some entries) := text_map_json (json entries given)
  simp +contextual [Flow.dump, json_field, json_optional, json_last_optional, scopes]

@[simp] theorem error_json (e : ErrorDefinition) : e.dump.IsJson := by
  simp [ErrorDefinition.dump, json_field, json_optional, json_last_optional]

theorem auth_scheme_json {s : AuthScheme} (json : s.kind.IsJson) : s.dump.IsJson := by
  obtain ⟨id, kind, description⟩ := s
  cases kind with
  | apiKey location name =>
      simp [AuthScheme.dump, AuthKind.dump, json_field, json_last_optional]
  | bearer scheme format =>
      simp [AuthScheme.dump, AuthKind.dump, json_field, json_optional,
        json_last_optional]
  | oauth2 flows =>
      have listed := list_json fun f member => flow_json (json f member)
      simp [AuthScheme.dump, AuthKind.dump, json_field, json_last_optional, listed]
  | basic =>
      simp [AuthScheme.dump, AuthKind.dump, json_field, json_last_optional]

end ApiSchema
