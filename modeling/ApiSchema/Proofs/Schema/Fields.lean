import ApiSchema.Proofs.Check.Record
import ApiSchema.OpenApi.Endpoints

namespace ApiSchema

open Check Checked

theorem type_ref_dump (r : TypeRef) : typeRef r.dump = .ok r := by
  obtain ⟨id, nullable⟩ := r
  simp [typeRef, TypeRef.dump, field, required, withDefault, Check.field?, Check.text, Check.flag,
    Check.record]

theorem type_of_kind_ok {title kind : String} (id : String) {shape : List (Scalar × Value) → Checked Shape}
    {pairs : List (Scalar × Value)} (named : lookup? pairs (.text "id") = some (.text id))
    (bare : lookup? pairs (.text "metadata") = none) :
    ∀ t, typeOfKind title kind shape (.map pairs) = .ok t →
      t.id = id ∧ t.metadata = none ∧ shape pairs = .ok t.shape := by
  simp only [typeOfKind, all_and_then, all_seq, all_map, record_ok]
  intro read same
  cases same
  intro id' held name _ description _ deprecated _ message _ metadata given kind _ s made
  simp [Check.required, Check.field?, named, text] at held
  simp [Check.optional, withDefault, Check.field?, bare] at given
  exact ⟨held.symm, given.symm, made⟩

theorem additional_dump (a : Additional) : additional a.dump = .ok a := by
  cases a with
  | type ref =>
      have typed : Additional.type <$> typeRef ref.dump = .ok (.type ref) := by
        rw [type_ref_dump, map_value]
      let named : Member Additional := ⟨"TypeReference", fun _ => .read, fun v => Additional.type <$> typeRef v⟩
      let flagged : Member Additional := ⟨"bool", fitFlag, fun v => Additional.allowed <$> flag v⟩
      have alone : readings [flagged] ref.dump = [] := readings_failed rfl
      have found : readings [named, flagged] ref.dump = [(.read, .type ref)] := by
        rw [readings_passed (m := named) typed, alone]
      change union [named, flagged] ref.dump = _
      rw [union, found]
      rfl
  | allowed b => rfl

theorem nullable_dump (a : Additional) : nullable additional a.dump = .ok (some a) := by
  have read := additional_dump a
  cases a with
  | type ref =>
      change some <$> additional (Additional.type ref).dump = _
      rw [read, map_value]
  | allowed b => rfl

namespace OpenApi

theorem property_ok {name : Scalar} {type : TypeRef} {required : Bool} {g : Graph}
    {entries : Entries} : ∀ p, property (.object ([("name", .scalar name), ("type", type.dump),
        ("required", .bool required)] ++ notes g entries)) = .ok p →
      text (.scalar name) = .ok p.name ∧ p.type = type ∧ p.required = required := by
  simp only [property, all_and_then, all_seq, all_map, record_ok]
  intro pairs same shown named type' typed required' flagged
  cases same
  simp [Check.required, Check.field?, type_ref_dump, flag] at named typed flagged
  intros
  exact ⟨named, typed.symm, flagged.symm⟩

theorem parameter_ok {name location : Value} {type : TypeRef} {g : Graph} {entries : Entries} :
    ∀ p, parameter (.object ([("name", name), ("location", location), ("type", type.dump)] ++
      notes g entries)) = .ok p → p.type = type := by
  simp only [parameter, all_and_then, all_seq, all_map, record_ok]
  intro pairs same _ _ _ _ type' typed
  cases same
  simp [Check.required, Check.field?, type_ref_dump] at typed
  intros
  exact typed.symm

theorem request_body_ok {type : TypeRef} {required content description : Value} :
    ∀ b, requestBody (.object [("type", type.dump), ("required", required),
      ("content_type", content), ("description", description)]) = .ok b → b.type = type := by
  simp only [requestBody, all_and_then, all_seq, all_map, record_ok]
  intro pairs same type' typed
  cases same
  simp [Check.required, Check.field?, type_ref_dump] at typed
  intros
  exact typed.symm

theorem header_ok {name required description : Value} {type : TypeRef} :
    ∀ h, ApiSchema.header (.object [("name", name), ("type", type.dump), ("required", required),
      ("description", description)]) = .ok h → h.type = type := by
  simp only [ApiSchema.header, all_and_then, all_seq, all_map, record_ok]
  intro pairs same _ _ type' typed
  cases same
  simp [Check.required, Check.field?, type_ref_dump] at typed
  intros
  exact typed.symm

theorem method_name (m : Method) : method (.text m.name) = .ok m := by
  cases m <;> rfl

theorem endpoint_ok {id operation summary tags : Value} {path : Scalar} {m : Method} {g : Graph}
    {entries : Entries} :
    ∀ e, endpoint (.object ([("id", id), ("operation_id", operation), ("path", .scalar path),
      ("method", .text m.name), ("summary", summary), ("tags", tags)] ++ notes g entries)) = .ok e →
        Check.text (.scalar path) = .ok e.path ∧ e.method = m := by
  simp only [endpoint, all_and_then, all_seq, all_map, record_ok]
  intro pairs same _ _ _ _ path' pathRead method' methodRead
  cases same
  simp [Check.required, Check.field?, method_name] at pathRead methodRead
  intros
  exact ⟨pathRead, methodRead.symm⟩

theorem endpoint_named {id operation path method summary tags : Value} {g : Graph} {entries : Entries} :
    ∀ e, endpoint (.object ([("id", id), ("operation_id", operation), ("path", path),
      ("method", method), ("summary", summary), ("tags", tags)] ++ notes g entries)) = .ok e →
        Check.text id = .ok e.id ∧ Check.text operation = .ok e.operationId := by
  simp only [endpoint, all_and_then, all_seq, all_map, record_ok]
  intro pairs same id' idRead operation' operationRead
  cases same
  simp [Check.required, Check.field?, notes] at idRead operationRead
  intros
  exact ⟨idRead, operationRead⟩

theorem array_ok {id name : String} {items : TypeRef} {least most unique : Value} {g : Graph}
    {entries : Entries} {t : TypeDefinition}
    (made : arrayType (.object ([("id", .text id), ("name", .text name), ("items", items.dump),
      ("min_items", least), ("max_items", most), ("unique_items", unique)] ++ notes g entries)) =
        .ok t) :
    t.id = id ∧ t.metadata = none ∧ ∃ least most unique, t.shape = .array items least most unique := by
  obtain ⟨held, bare, shaped⟩ := type_of_kind_ok id (by simp [notes]) (by simp [notes]) t made
  refine ⟨held, bare, ?_⟩
  revert shaped
  generalize t.shape = shape
  revert shape
  simp only [all_seq, all_map]
  intro items' typed least' _ most' _ unique' _
  simp [Check.required, Check.field?, type_ref_dump] at typed
  exact ⟨least', most', unique', by rw [typed]⟩

theorem plain_type_ok {title kind id name : String} {shape : List (Scalar × Value) → Checked Shape}
    {g : Graph} {entries : Entries} {t : TypeDefinition}
    (made : typeOfKind title kind shape
      (.object ([("id", .text id), ("name", .text name)] ++ notes g entries)) = .ok t) :
    t.id = id ∧ t.metadata = none := by
  obtain ⟨held, bare, _⟩ := type_of_kind_ok id (by simp [notes]) (by simp [notes]) t made
  exact ⟨held, bare⟩

theorem primitive_ok {id name : String} {kind : PrimitiveKind} {g : Graph} {entries : Entries}
    {t : TypeDefinition}
    (made : primitiveType (.object ([("id", .text id), ("name", .text name),
      ("primitive_kind", .text kind.name)] ++ notes g entries)) = .ok t) :
    t.id = id ∧ t.metadata = none := by
  obtain ⟨held, bare, _⟩ := type_of_kind_ok id (by simp [notes]) (by simp [notes]) t made
  exact ⟨held, bare⟩

theorem object_read {id name : String} {properties : List Property} {required : List Value}
    {additional : Option Additional} {discriminator : Option String} {g : Graph} {entries : Entries}
    {t : TypeDefinition}
    (made : objectOf (.text id) (.text name) properties required
      (([("additional_properties", optionalValue Additional.dump additional),
        ("discriminator", optionalValue .text discriminator)] ++ notes g entries).map
          fun (k, v) => (.text k, v)) = .ok t) :
    t.id = id ∧ t.metadata = none ∧ ∃ names discriminator,
      t.shape = .object (properties.map (·.markedBy (requiredValues properties required))) names
        additional discriminator ∧
        tuple text (.list (requiredValues properties required)) = .ok names := by
  unfold objectOf at made
  split at made
  · cases made
  · simp only at made
    split at made
    · cases made
    next u read =>
      obtain ⟨held, bare, shaped⟩ := type_of_kind_ok id
        (by simp [field, notes]) (by simp [field, notes]) u read
      have read : ∃ own names discriminator, u.shape = .object own names additional discriminator ∧
          tuple text (.list (requiredValues properties required)) = .ok names := by
        -- The shape is what the checks of its fields gave, one after the other.
        revert shaped
        generalize u.shape = shape
        revert shape
        simp only [all_seq, all_map]
        intro own _ names texts further found discriminator _
        have same : further = additional := by
          cases additional with
          | none =>
              simp [field, notes, Check.optional, withDefault, Check.field?, optionalValue, nullable]
                at found
              exact found.symm
          | some a =>
              simp [field, notes, Check.optional, withDefault, Check.field?, optionalValue] at found
              rw [nullable_dump] at found
              exact (Checked.ok.inj found).symm
        simp [withDefault, Check.field?, field] at texts
        exact ⟨own, names, discriminator, by rw [same], by simpa using texts⟩
      obtain ⟨own, names, discriminator, same, texts⟩ := read
      rw [same] at made
      cases made
      exact ⟨held, bare, names, discriminator, rfl, texts⟩

theorem object_of_ok {id name : String} {properties : List Property} {required : List Value}
    {additional : Option Additional} {discriminator : Option String} {g : Graph} {entries : Entries}
    {t : TypeDefinition}
    (made : objectOf (.text id) (.text name) properties required
      (([("additional_properties", optionalValue Additional.dump additional),
        ("discriminator", optionalValue .text discriminator)] ++ notes g entries).map
          fun (k, v) => (.text k, v)) = .ok t) :
    t.id = id ∧ t.metadata = none ∧ ∃ names discriminator,
      t.shape = .object (properties.map (·.markedBy (requiredValues properties required))) names
        additional discriminator := by
  obtain ⟨held, bare, names, discriminator, shaped, _⟩ := object_read made
  exact ⟨held, bare, names, discriminator, shaped⟩

end OpenApi

end ApiSchema
