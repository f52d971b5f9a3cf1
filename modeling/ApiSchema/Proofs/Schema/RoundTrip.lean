import ApiSchema.Proofs.Schema.Json
import ApiSchema.Schema.FromJson

namespace ApiSchema

open Check Checked

def Exchanged {α : Type} (check : Check α) (dump : Dumped) (a : α) : Prop :=
  ∃ v, dump = .ok v ∧ check v = .ok a ∧ v.IsJson

theorem free_form_written (name : String) {o : Option Fields} (plain : ∀ fields ∈ o, fields.IsPlain) :
    freeForm? name o = .ok (field? name fieldsValue o) := by
  cases o with
  | none => rfl
  | some fields =>
      rw [freeForm?, entries_plain fun e member => ?_]
      · rfl
      · obtain ⟨f, listed, rfl⟩ := List.mem_map.mp member
        obtain ⟨named, same⟩ := (plain fields rfl).2 f listed
        exact ⟨named, plain_same same⟩

theorem free_form_back {name : String} {o : Option Fields} (plain : ∀ fields ∈ o, fields.IsPlain) :
    given freeForm (o.map (Prod.mk name ∘ fieldsValue)) = .ok o  :=
  given_free_form fun fields held => (plain fields held).1

def placed (default : Option Value) (rest : List (Scalar × Value)) : List (Scalar × Value) :=
  match default with
  | none => rest
  | some (.scalar .null) => rest ++ field "default" .null
  | some v => field "default" v ++ rest

theorem placed_value {v : Value} {rest : List (Scalar × Value)} (something : v = .null → False) :
    placed (some v) rest = field "default" v ++ rest := by
  rw [placed]
  exact something

theorem default_written {default : Option Value} {rest : List (Scalar × Value)}
    (plain : ∀ v ∈ default, v.IsPlain plainLevels) : dumpDefault default rest = .ok (.map (placed default rest)) := by
  unfold dumpDefault
  split
  · rfl
  · rfl
  next v something =>
    rw [Value.plain, plain_same (plain v rfl), placed_value something]
    rfl

theorem placed_perm (default : Option Value) (rest : List (Scalar × Value)) :
    (placed default rest).Perm (field? "default" (fun v => v) default ++ rest) := by
  unfold placed
  split
  · exact .refl _
  · exact List.perm_append_comm
  · exact .refl _

@[simp] theorem lookup_placed {default : Option Value} {rest : List (Scalar × Value)} {name : String}
    (other : name ≠ "default") : lookup? (placed default rest) (.text name) = lookup? rest (.text name) := by
  unfold placed
  split <;> simp [Ne.symm other]

theorem lookup_default {default : Option Value} {rest : List (Scalar × Value)}
    (fresh : lookup? rest (.text "default") = none) :
    lookup? (placed default rest) (.text "default") = default := by
  unfold placed
  split <;> simp [fresh]

theorem json_perm {entries others : List (Scalar × Value)} (perm : entries.Perm others) :
    (Value.map entries).IsJson ↔ (Value.map others).IsJson := by
  rw [map_json, map_json, (perm.map Prod.fst).nodup_iff]
  simp only [perm.mem_iff]

theorem json_placed {default : Option Value} {rest : List (Scalar × Value)}
    (plain : ∀ v ∈ default, v.IsPlain plainLevels) (fresh : lookup? rest (.text "default") = none) :
    (Value.map (placed default rest)).IsJson ↔ (Value.map rest).IsJson := by
  rw [json_perm (placed_perm default rest), json_optional fresh fun v held => plain_is_json (plain v held)]

theorem default_exchanged {α : Type} {check : Check α} {a : α} {default : Option Value}
    {rest : List (Scalar × Value)} (plain : ∀ v ∈ default, v.IsPlain plainLevels)
    (fresh : lookup? rest (.text "default") = none) (others : (Value.map rest).IsJson)
    (read : check (.map (placed default rest)) = .ok a) :
    Exchanged check (dumpDefault default rest) a :=
  ⟨_, default_written plain, read, (json_placed plain fresh).mpr others⟩

theorem property_exchanged {p : Property} (json : p.IsJson) : Exchanged property p.dump p := by
  have limits (c) (given : p.constraints = some c) := constraints_json (json.constraints c given)
  have free (fields) (given : p.metadata = some fields) : (fieldsValue fields).IsJson :=
    fields_json (json.metadata fields given)
  rw [Property.dump, free_form_written _ json.metadata]
  refine default_exchanged json.default ?_ ?_ ?_
  · simp
  · simp +contextual [json_field, json_optional, json_last_optional, limits, free]
  · simp [property, Check.required, declared, lookup_default, type_ref_dump, free_form_back json.metadata]

theorem parameter_exchanged {p : Parameter} (plain : ∀ v ∈ p.default, v.IsPlain plainLevels) :
    Exchanged parameter p.dump p := by
  have placed (l : Location) : location (.text l.name) = .ok l := by cases l <;> rfl
  refine default_exchanged plain ?_ ?_ ?_
  · simp
  · simp [json_field, json_optional, json_last_optional]
  · simp [parameter, Check.required, withDefault, declared, lookup_default, type_ref_dump, placed]

theorem each_exchanged {α : Type} {check : Check α} {dump : α → Dumped} {items : List α}
    (each : ∀ a ∈ items, Exchanged check (dump a) a) :
    ∃ values, items.mapM dump = .ok values ∧ (∀ position, eachFrom check position values = .ok items) ∧
      ∀ v ∈ values, v.IsJson := by
  induction items with
  | nil => exact ⟨[], rfl, fun _ => rfl, by simp⟩
  | cons a rest ih =>
      obtain ⟨v, written, read, json⟩ := each a (by simp)
      obtain ⟨values, writtenAll, readAll, jsonAll⟩ := ih fun b member => each b (by simp [member])
      refine ⟨v :: values, ?_, fun position => ?_, List.forall_mem_cons.mpr ⟨json, jsonAll⟩⟩
      · rw [List.mapM_cons, written, writtenAll]
        rfl
      · rw [eachFrom, read, readAll]
        rfl

theorem list_exchanged {α : Type} {check : Check α} {dump : α → Dumped} {items : List α}
    (each : ∀ a ∈ items, Exchanged check (dump a) a) :
    ∃ values, items.mapM dump = .ok values ∧ tuple check (.list values) = .ok items ∧
      (Value.list values).IsJson := by
  obtain ⟨values, written, read, json⟩ := each_exchanged each
  exact ⟨values, written, read 0, .list json⟩

theorem primitive_kind_read (k : PrimitiveKind) : primitiveKind (.text k.name) = .ok k := by
  cases k <;> rfl

theorem enum_kind_read (k : EnumKind) : enumKind (.text k.name) = .ok k := by
  cases k <;> rfl

theorem type_exchanged {t : TypeDefinition} (json : t.IsJson) :
    Exchanged typeDefinition t.dump t := by
  obtain ⟨id, name, description, deprecated, message, metadata, shape⟩ := t
  obtain ⟨freeJson, shapeJson⟩ := json
  have free (fields) (given : metadata = some fields) : (fieldsValue fields).IsJson :=
    fields_json (freeJson fields given)
  have noted := free_form_written "metadata" freeJson
  have back := @free_form_back "metadata" metadata freeJson
  -- Written and read back field by field; what is optional is read as it was, or as absent.
  cases shape with
  | primitive kind limits =>
      have limited (c) (given : limits = some c) := constraints_json (shapeJson c given)
      refine ⟨.map _, by rw [TypeDefinition.dump, noted]; rfl, ?_, ?_⟩
      · simp [typeDefinition, byTag, primitiveType, typeOfKind, Check.required, withDefault,
          constant, Shape.kind, primitive_kind_read, back]
      · simp +contextual [json_field, json_optional, json_last_optional, free, limited]
  | object properties required further discriminator =>
      obtain ⟨values, written, read, json⟩ :=
        list_exchanged fun p member => property_exchanged (shapeJson p member)
      have names : tuple text (.strings required) = .ok required := (tuple_reads text_reads required).1
      refine ⟨.map _, by rw [TypeDefinition.dump, noted, Shape.dump, written]; rfl, ?_, ?_⟩
      · simp [typeDefinition, byTag, objectType, typeOfKind, Check.required, withDefault,
          constant, Shape.kind, read, names, back]
      · simp +contextual [json_field, json_optional, json_last_optional, free, json]
  | array items least most unique =>
      refine ⟨.map _, by rw [TypeDefinition.dump, noted]; rfl, ?_, ?_⟩
      · simp [typeDefinition, byTag, arrayType, typeOfKind, Check.required, withDefault, constant,
          Shape.kind, type_ref_dump, back]
      · simp +contextual [json_field, json_optional, json_last_optional, free]
  | union variants discriminator mapping =>
      have mapped (entries) (given : mapping = some entries) := text_map_json (shapeJson entries given)
      have named := @given_text_map "discriminatorMapping" mapping shapeJson
      have listed := (tuple_reads type_ref_reads variants).1
      have json := list_json fun r (_ : r ∈ variants) => type_ref_json r
      refine ⟨.map _, by rw [TypeDefinition.dump, noted]; rfl, ?_, ?_⟩
      · simp [typeDefinition, byTag, unionType, typeOfKind, Check.required, withDefault, constant,
          Shape.kind, listed, named, back]
      · simp +contextual [json_field, json_optional, json_last_optional, free, json, mapped]
  | enum values kind =>
      have listed := (tuple_reads enum_value_reads values).1
      have json := list_json fun v member => enum_value_json (shapeJson v member)
      refine ⟨.map _, by rw [TypeDefinition.dump, noted]; rfl, ?_, ?_⟩
      · simp [typeDefinition, byTag, enumType, typeOfKind, Check.required, withDefault, constant,
          Shape.kind, listed, enum_kind_read, back]
      · simp +contextual [json_field, json_optional, json_last, free, json]

theorem endpoint_exchanged {e : Endpoint} (json : e.IsJson) : Exchanged endpoint e.dump e := by
  have free (fields) (given : e.metadata = some fields) : (fieldsValue fields).IsJson :=
    fields_json (json.metadata fields given)
  obtain ⟨values, written, read, parameters⟩ :=
    list_exchanged fun p member => parameter_exchanged (json.parameters p member)
  have responses := list_json fun r (_ : r ∈ e.responses) => response_json r
  have answered := (tuple_reads response_reads e.responses).1
  have schemes : tuple text (.strings e.authentication) = .ok e.authentication :=
    (tuple_reads text_reads e.authentication).1
  have tagged : Reads (tuple text) Value.strings := tuple_reads text_reads
  refine ⟨.map _, by rw [Endpoint.dump, written, free_form_written _ json.metadata]; rfl, ?_, ?_⟩
  · simp [endpoint, Check.required, withDefault, OpenApi.method_name, read, answered, schemes, tagged,
      free_form_back json.metadata]
  · simp +contextual [json_field, json_optional, json_last_optional, free, parameters, responses]

theorem metadata_exchanged {m : Metadata} (json : m.IsJson) : Exchanged metadata m.dump m := by
  obtain ⟨version, provider, title, api, generated, extra⟩ := m
  obtain ⟨universal, freeJson⟩ := json
  have free (fields) (given : extra = some fields) : (fieldsValue fields).IsJson :=
    fields_json (freeJson fields given)
  refine ⟨.map _, by rw [Metadata.dump, free_form_written _ freeJson]; rfl, ?_, ?_⟩
  · cases generated with
    | none => simp [metadata, Check.required, withDefault, free_form_back freeJson]
    | some t =>
        simp [metadata, Check.required, withDefault, moment_read (universal t rfl), free_form_back freeJson]
  · simp +contextual [json_field, json_optional, json_last_optional, free]

theorem schema_exchanged {s : Schema} (json : s.IsJson) : Exchanged schema s.dump s := by
  have free (fields) (given : s.config = some fields) : (fieldsValue fields).IsJson :=
    fields_json (json.config fields given)
  obtain ⟨head, headWritten, headRead, headJson⟩ := metadata_exchanged json.metadata
  obtain ⟨types, typesWritten, typesRead, typesJson⟩ :=
    list_exchanged fun t member => type_exchanged (json.types t member)
  obtain ⟨endpoints, endpointsWritten, endpointsRead, endpointsJson⟩ :=
    list_exchanged fun e member => endpoint_exchanged (json.endpoints e member)
  have schemes := tuple_read s.authentication fun a member =>
    auth_scheme_read (json.authentication a member).no_path (json.authentication a member).distinct
  have errors := (tuple_reads error_reads s.errors).1
  have schemesJson := list_json fun a member => auth_scheme_json (json.authentication a member)
  have errorsJson := list_json fun e (_ : e ∈ s.errors) => error_json e
  refine ⟨.map _, by
    rw [Schema.dump, headWritten, typesWritten, endpointsWritten, free_form_written _ json.config]
    rfl, ?_, ?_⟩
  · simp [schema, Check.required, withDefault, headRead, typesRead, endpointsRead, schemes, errors,
      free_form_back json.config]
  · simp +contextual [json_field, json_last_optional, free, headJson, typesJson, endpointsJson,
      schemesJson, errorsJson]

theorem printed_clean {s : Schema} {v : Value} {indent : Option Nat} (written : s.dump = .ok v)
    (clean : Json.Clean ((Json.Style.canonical indent).write 0 v)) :
    s.toJson indent = .ok ((Json.Style.canonical indent).render v) := by
  rw [Schema.toJson, written]
  simp only [bind, Except.bind, Json.render_clean.mpr clean, if_true]
  rfl

theorem printed_json {s : Schema} {v : Value} (written : s.dump = .ok v) (json : v.IsJson)
    (encodes : ∀ a ∈ v.scalars, a.Encodes) (indent : Option Nat) :
    s.toJson indent = .ok ((Json.Style.canonical indent).render v) :=
  printed_clean written (Json.clean_written json encodes 0)

theorem text_read_back {s : Schema} {v : Value} (read : schema v = .ok s) (json : v.IsJson)
    (fits : v.FitsIn 200) (indent : Option Nat) :
    Schema.ofJson ((Json.Style.canonical indent).render v) = .ok s := by
  rw [Schema.ofJson, (Json.render_read indent json).1 fits]
  simp only [read]

/-- Both ways of writing a schema keep all of it. There is a text if every text in it can be encoded,
and it is read back as far as its nesting and its integers are within what the reader takes. -/
theorem schema_comes_back {s : Schema} (json : s.IsJson) :
    ∃ v, s.dump = .ok v ∧ Schema.ofValue v = .ok s ∧ ((∀ a ∈ v.scalars, a.Encodes) →
      ∀ indent, ∃ text, s.toJson indent = .ok text ∧
        (v.FitsIn 200 → Schema.ofJson text = .ok s) ∧
        (¬ v.FitsIn 200 → ∃ r, Schema.ofJson text = .error r)) := by
  obtain ⟨v, written, read, plain⟩ := schema_exchanged json
  refine ⟨v, written, by rw [Schema.ofValue, read]; rfl, fun encodes indent => ?_⟩
  refine ⟨(Json.Style.canonical indent).render v, printed_json written plain encodes indent,
    fun fits => text_read_back read plain fits indent, fun beyond => ?_⟩
  obtain ⟨message, refused⟩ := (Json.render_read indent plain).2 beyond
  rw [Schema.ofJson, refused]
  exact ⟨_, rfl⟩

def newYear : Moment := ⟨⟨2024, 1, 1⟩, 0, 0, 0, 0, some 0⟩

theorem new_year_universal : newYear.IsUniversal :=
  ⟨by decide, by decide, by decide, by decide, by decide, rfl⟩

def half : Binary64 := .ofRatio false 1 2

theorem reads_back_checked {x : Binary64} (text : String)
    (printed : FloatStyle.shortExponent.render? x = some text)
    (read : (match Json.Strict.read text.toList with
      | .ok (.scalar s) => decide (s = .float x)
      | _ => false) = true) : x.ReadsBack := by
  refine ⟨text, printed, ?_⟩
  split at read
  next s same => rw [same, of_decide_eq_true read]
  · cases read

theorem half_reads_back : half.ReadsBack :=
  reads_back_checked "0.5" (by decide +kernel) (by decide +kernel)

def sampleSchema : Schema where
  metadata :=
    { providerId := "p", providerName := "P", apiVersion := "1", generatedAt := some newYear }
  types :=
    [{ id := "type_0", name := "Options"
       shape := .object
        [{ name := "stop", type := ⟨"type_1", true⟩, required := false, default := some .null },
         { name := "level", type := ⟨"type_1", false⟩, required := true
           constraints := some
            { minimum := some half, exclusiveMaximum := some (.flag true)
              enum := some [.text "0.5", .float half, .int 1] } }]
        ["level"] (some (.allowed false)) none },
     { id := "type_1", name := "Level", shape := .enum [⟨.float half, "half", none, none⟩] .number }]
  authentication := [{ id := "key", kind := .apiKey .header "X-Key" }]
  config := some [("tags", .list [.null, .text "a"])]

theorem sample_schema_json : sampleSchema.IsJson where
  metadata := ⟨fun t same => by cases same; exact new_year_universal, fun _ none => by cases none⟩
  types := by
    intro t member
    simp only [sampleSchema, List.mem_cons, List.not_mem_nil, or_false] at member
    rcases member with rfl | rfl
    · refine ⟨fun _ none => (by cases none), ?_⟩
      intro p member
      simp only [List.mem_cons, List.not_mem_nil, or_false] at member
      rcases member with rfl | rfl
      · exact ⟨by simp, by simp, fun v same => by cases same; decide⟩
      · refine ⟨fun c same => ?_, by simp, by simp⟩
        cases same
        refine ⟨by simp [half_reads_back], by simp, by simp, fun b same => ?_, by simp, ?_⟩
        · cases same
          trivial
        · intro values same l member
          cases same
          simp only [List.mem_cons, List.not_mem_nil, or_false] at member
          rcases member with rfl | rfl | rfl
          · trivial
          · exact half_reads_back
          · trivial
    · refine ⟨fun _ none => (by cases none), fun v member => ?_⟩
      cases List.mem_singleton.mp member
      exact half_reads_back
  endpoints := by simp [sampleSchema]
  authentication := by
    intro a member
    cases List.mem_singleton.mp member
    exact fun same => by cases same
  config := by
    intro fields same
    cases same
    exact ⟨by decide, by decide⟩

theorem sample_schema_comes_back : sampleSchema.IsJson ∧
    ∃ text, sampleSchema.toJson (some 2) = .ok text ∧ Schema.ofJson text = .ok sampleSchema := by
  refine ⟨sample_schema_json, ?_⟩
  obtain ⟨v, written, _, each⟩ := schema_comes_back sample_schema_json
  have within : (match sampleSchema.dump with
      | .ok v => decide ((∀ a ∈ v.scalars, a.Encodes) ∧ v.FitsIn 200)
      | .error _ => false) = true := by decide +kernel
  rw [written] at within
  obtain ⟨encodes, fits⟩ := of_decide_eq_true within
  obtain ⟨text, printed, back, _⟩ := each encodes (some 2)
  exact ⟨text, printed, back fits⟩

def stacked : Nat → Value
  | 0 => .int 0
  | n + 1 => .list [stacked n]

theorem stacked_plain (more n : Nat) : (stacked n).IsPlain (more + n + 1) := by
  induction n with
  | zero => exact trivial
  | succ n ih => exact fun v member => List.mem_singleton.mp member ▸ ih

def deepSchema : Schema where
  metadata :=
    { providerId := "p", providerName := "P", apiVersion := "1", generatedAt := some newYear }
  config := some [("x", stacked 199)]

theorem deep_schema_json : deepSchema.IsJson where
  metadata := ⟨fun t same => by cases same; exact new_year_universal, fun _ none => by cases none⟩
  types := by simp [deepSchema]
  endpoints := by simp [deepSchema]
  authentication := by simp [deepSchema]
  config := by
    intro fields same
    cases same
    exact ⟨by decide, fun f member => List.mem_singleton.mp member ▸ ⟨by decide, stacked_plain 55 199⟩⟩

theorem deep_schema_refused : deepSchema.IsJson ∧
    ∃ text, deepSchema.toJson none = .ok text ∧ Schema.ofJson text ≠ .ok deepSchema := by
  obtain ⟨v, written, _, plain⟩ := schema_exchanged deep_schema_json
  have deep : (match deepSchema.dump with
      | .ok v => decide ((∀ a ∈ v.scalars, a.Encodes) ∧ ¬ v.FitsIn 200)
      | .error _ => false) = true := by decide +kernel
  rw [written] at deep
  obtain ⟨encodes, beyond⟩ := of_decide_eq_true deep
  obtain ⟨message, refused⟩ := (Json.render_read none plain).2 beyond
  refine ⟨deep_schema_json, _, printed_json written plain encodes none, ?_⟩
  rw [Schema.ofJson, refused]
  intro same
  cases same

end ApiSchema
