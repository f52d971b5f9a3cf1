import ApiSchema.Proofs.Schema.Reading
import ApiSchema.Proofs.Schema.Validation

namespace ApiSchema

open Check Checked

def markedNames (properties : List Property) : List String :=
  (properties.filter (·.required)).map (·.name)

structure Reconciled (properties : List Property) (declared : List String) (made : List Property)
    (names : List String) : Prop where
  distinct : names.Nodup
  order : names = declared.eraseDups ++ ((markedNames properties).removeAll declared).eraseDups
  union : ∀ name, name ∈ names ↔ name ∈ declared ∨ ∃ p ∈ properties, p.required = true ∧ p.name = name
  unchanged : made = properties.map fun p => { p with required := names.contains p.name }

section Names

variable {name : String} {names start declared : List String} {properties : List Property}

theorem names_folded (names start : List String) :
    names.foldl addName start = start ++ (names.removeAll start).eraseDups := by
  induction names generalizing start with
  | nil => simp [List.removeAll]
  | cons first rest ih =>
      rw [List.foldl_cons, ih, addName]
      by_cases known : first ∈ start
      · simp [List.removeAll, known]
      · have others : rest.removeAll (start ++ [first]) =
            (rest.removeAll start).filter fun other => !other == first := by
          simp only [List.removeAll, List.filter_filter]
          refine List.filter_congr fun other _ => ?_
          by_cases same : other = first <;> by_cases seen : other ∈ start <;> simp [same, seen]
        have kept : (first :: rest).removeAll start = first :: rest.removeAll start := by
          simp [List.removeAll, known]
        simp [known, others, kept, List.eraseDups_cons]

theorem marked_folded (properties : List Property) (start : List String) :
    (properties.filter (·.required)).foldl (fun names p => addName names p.name) start =
      (markedNames properties).foldl addName start :=
  List.foldl_map.symm

theorem names_ordered : requiredNames properties declared =
    declared.eraseDups ++ ((markedNames properties).removeAll declared).eraseDups := by
  have same : (markedNames properties).removeAll declared.eraseDups =
      (markedNames properties).removeAll declared := by
    refine List.filter_congr fun name _ => ?_
    simp [List.mem_eraseDups]
  rw [requiredNames, marked_folded, names_folded, names_folded, List.nil_append, ← same]
  simp [List.removeAll]

theorem names_together : requiredNames properties declared =
    (declared ++ markedNames properties).eraseDups := by
  rw [names_ordered, List.eraseDups_append]

theorem marked_name : name ∈ markedNames properties ↔
    ∃ p ∈ properties, p.required = true ∧ p.name = name := by
  simp [markedNames, and_assoc]

theorem erased_distinct (distinct : names.Nodup) : names.eraseDups = names := by
  induction names with
  | nil => rfl
  | cons first rest ih =>
      obtain ⟨new, others⟩ := List.nodup_cons.mp distinct
      have kept : rest.filter (fun other => !other == first) = rest :=
        List.filter_eq_self.mpr fun other member => by
          have differs : other ≠ first := fun same => new (same ▸ member)
          simp [differs]
      rw [List.eraseDups_cons, kept, ih others]

-- Names that cover the marked ones already are kept.
theorem names_settled (distinct : names.Nodup) (covers : ∀ p ∈ properties, p.required = true → p.name ∈ names) :
    requiredNames properties names = names := by
  have nothing : (markedNames properties).removeAll names = [] := by
    refine List.filter_eq_nil_iff.mpr fun name member => ?_
    obtain ⟨p, listed, marked, rfl⟩ := marked_name.mp member
    simp [covers p listed marked]
  rw [names_ordered, nothing, erased_distinct distinct]
  simp

example : requiredNames [⟨"a", ⟨"t", false⟩, false, none, none, none, none, none⟩,
    ⟨"a", ⟨"t", false⟩, true, none, none, none, none, none⟩] ["b", "c", "b"] = ["b", "c", "a"] := by decide

theorem reconciled_names : Reconciled properties declared
    (properties.map fun p => { p with required := (requiredNames properties declared).contains p.name })
    (requiredNames properties declared) where
  distinct := by
    rw [names_together]
    exact Schema.nodup_erase_dups _
  order := names_ordered
  union name := by rw [names_together, List.mem_eraseDups, List.mem_append, marked_name]
  unchanged := rfl

theorem text_among (names : List String) (name : String) :
    (names.map Value.text).any (Value.text name).same = names.contains name := by
  induction names with
  | nil => rfl
  | cons first others ih =>
      simp only [List.map_cons, List.any_cons, List.contains_cons, ih]
      simp [Value.same, Bool.beq_eq_decide_eq]

theorem distinct_texts (names start : List String) :
    (names.map Value.text).foldl addDistinct (start.map Value.text) =
      (names.foldl addName start).map Value.text := by
  induction names generalizing start with
  | nil => rfl
  | cons first rest ih =>
      have one : addDistinct (start.map Value.text) (.text first) = (addName start first).map Value.text := by
        rw [addDistinct, addName, text_among]
        split <;> simp
      rw [List.map_cons, List.foldl_cons, one, ih, List.foldl_cons]

end Names

section Making

variable (id name : String) (rest : List (Scalar × Value))

def objectFields (names : List String) : List (Scalar × Value) :=
  field "id" (.text id) ++ field "name" (.text name) ++ field "required" (.strings names) ++ rest

theorem field_behind {names keys : List String} (other : ∀ key ∈ keys, key ∉ ["id", "name", "required"]) :
    Check.field? (objectFields id name rest names) keys = Check.field? rest keys := by
  unfold Check.field?
  induction keys with
  | nil => rfl
  | cons key others ih =>
      have skipped : lookup? (objectFields id name rest names) (.text key) = lookup? rest (.text key) := by
        have apart := other key (by simp)
        simp only [List.mem_cons, List.not_mem_nil, or_false, not_or] at apart
        obtain ⟨notId, notName, notRequired⟩ := apart
        simp [objectFields, field, Ne.symm notId, Ne.symm notName, Ne.symm notRequired]
      rw [List.findSome?_cons, List.findSome?_cons, skipped, ih fun key member => other key (by simp [member])]

theorem optional_behind {α : Type} {names keys : List String} {check : Check α}
    (other : ∀ key ∈ keys, key ∉ ["id", "name", "required"]) :
    Check.optional (objectFields id name rest names) keys check = Check.optional rest keys check := by
  rw [Check.optional, withDefault, field_behind id name rest other]
  rfl

theorem default_behind {α : Type} {names keys : List String} {check : Check α} {default : α}
    (other : ∀ key ∈ keys, key ∉ ["id", "name", "required"]) :
    withDefault (objectFields id name rest names) keys default check =
      withDefault rest keys default check := by
  rw [withDefault, field_behind id name rest other]
  rfl

-- Whether an object is made depends on its other fields alone.
theorem object_fields_checked :
    (∃ (make : Shape → TypeDefinition) (own : List Property) (additional : Option Additional)
      (discriminator : Option String), (∀ s, (make s).shape = s) ∧
        (∀ s s', { make s with shape := s' } = make s') ∧ ∀ names,
          objectType (.map (objectFields id name rest names)) =
            .ok (make (.object own names additional discriminator))) ∨
    ∃ issues, ∀ names, objectType (.map (objectFields id name rest names)) = .bad issues := by
  let front : Checked (Shape → TypeDefinition) :=
    (.ok fun description deprecated deprecationMessage metadata _ shape =>
      { id, name, description, deprecated, deprecationMessage, metadata, shape }) <*>
      Check.optional rest ["description"] text <*> Check.optional rest ["deprecated"] flag <*>
      Check.optional rest ["deprecationMessage", "deprecation_message"] text <*>
      Check.optional rest ["metadata"] freeForm <*> withDefault rest ["kind"] "object" (constant ["object"])
  let own := withDefault rest ["properties"] [] (tuple property)
  let further := Check.optional rest ["additionalProperties", "additional_properties"] additional
  let found := Check.optional rest ["discriminator"] text
  -- Only the declared names differ, and no other check looks at them.
  have parts (names : List String) : objectType (.map (objectFields id name rest names)) =
      front <*> (Shape.object <$> own <*> .ok names <*> further <*> found) := by
    have texts : tuple text (.strings names) = .ok names := tuple_read names fun _ _ => rfl
    have given : Check.required (objectFields id name rest names) ["id"] text = .ok id := by
      simp [objectFields, field, Check.required, Check.field?, text]
    have called : Check.required (objectFields id name rest names) ["name"] text = .ok name := by
      simp [objectFields, field, Check.required, Check.field?, text]
    have listed : withDefault (objectFields id name rest names) ["required"] [] (tuple text) = .ok names := by
      simp [objectFields, field, withDefault, Check.field?, texts]
    unfold objectType typeOfKind
    simp only [Check.record, and_then_value, given, called, listed]
    simp only [optional_behind id name rest, default_behind id name rest, List.mem_cons, List.not_mem_nil,
      or_false, forall_eq, forall_eq_or_imp, String.reduceEq, not_false_eq_true, and_self, map_value, seq_value]
    rfl
  have makes : ∀ make, front = .ok make → (∀ s, (make s).shape = s) ∧
      ∀ s s', { make s with shape := s' } = make s' := by
    simp only [front, all_seq]
    intro fields same
    cases same
    intros
    exact ⟨fun _ => rfl, fun _ _ => rfl⟩
  simp only [parts]
  clear_value front own further found
  -- The first part that is refused decides, whatever the names are.
  cases front with
  | bad issues =>
      refine .inr ?_
      cases own <;> cases further <;> cases found <;> exact ⟨_, fun _ => rfl⟩
  | ok make =>
      obtain ⟨shaped, replaced⟩ := makes make rfl
      cases own with
      | bad => refine .inr ?_; cases further <;> cases found <;> exact ⟨_, fun _ => rfl⟩
      | ok own =>
          cases further with
          | bad => refine .inr ?_; cases found <;> exact ⟨_, fun _ => rfl⟩
          | ok further =>
              cases found with
              | bad => exact .inr ⟨_, fun _ => rfl⟩
              | ok found => exact .inl ⟨make, own, further, found, shaped, replaced, fun _ => rfl⟩

-- The record of an object holds the names that it requires.
theorem object_made (properties : List Property) (declared : List String) :
    objectOf (.text id) (.text name) properties (declared.map .text) rest =
      match objectType (.map (objectFields id name rest (requiredNames properties declared))) with
      | .bad issues => .error (.rejected ⟨"ObjectType", issues, false⟩)
      | .ok t =>
        match t.shape with
        | .object _ names additional discriminator =>
          .ok { t with shape := .object (properties.map fun p => { p with
            required := (requiredNames properties declared).contains p.name }) names additional discriminator }
        | _ => .ok t := by
  have keys : (declared.map Value.text).all Value.isKey = true := by
    simp [List.all_map, Value.isKey]
  have names : requiredValues properties (declared.map .text) =
      (requiredNames properties declared).map Value.text := by
    have marked : ((properties.filter (·.required)).map fun p => Value.text p.name) =
        (markedNames properties).map Value.text := by
      simp [markedNames, List.map_map]
    rw [requiredValues, marked, ← List.map_append, ← List.map_nil, distinct_texts, List.foldl_append,
      requiredNames, marked_folded]
  unfold objectOf
  simp only [keys, names, Property.markedBy, text_among, Bool.not_true, Bool.false_eq_true, if_false]
  rfl

-- Without other fields nothing is refused.
theorem object_alone : objectType (.map (objectFields id name [] [])) =
    .ok { id, name, shape := .object [] [] none none } :=
  rfl

theorem object_settled {properties : List Property} {declared names : List String}
    {make : Shape → TypeDefinition} {own : List Property} {additional : Option Additional}
    {discriminator : Option String} (shaped : ∀ s, (make s).shape = s)
    (replaced : ∀ s s', { make s with shape := s' } = make s')
    (checked : ∀ names, objectType (.map (objectFields id name rest names)) =
      .ok (make (.object own names additional discriminator)))
    (required : requiredNames properties declared = names) :
    objectOf (.text id) (.text name) properties (declared.map .text) rest =
      .ok (make (.object (properties.map fun p => { p with required := names.contains p.name }) names
        additional discriminator)) := by
  rw [object_made, required, checked]
  simp only [shaped, replaced]

/-- An object is made of any properties and any declared names unless its other fields are refused by
themselves. What it requires is reconciled with its properties, and made of these again it is the same. -/
theorem object_reconciled (properties : List Property) (declared : List String) :
    let create := fun properties (declared : List String) =>
      objectOf (.text id) (.text name) properties (declared.map .text) rest
    (rest = [] → ∃ t, create properties declared = .ok t) ∧
    match objectType (.map (objectFields id name rest [])) with
    | .bad issues => create properties declared = .error (.rejected ⟨"ObjectType", issues, false⟩)
    | .ok t => ∃ own made names additional discriminator, t.shape = .object own [] additional discriminator ∧
        create properties declared =
          .ok { t with shape := .object made names additional discriminator } ∧
        Reconciled properties declared made names ∧ create made names = create properties declared := by
  intro create
  have reconciled : Reconciled properties declared _ _ := reconciled_names
  generalize requires : requiredNames properties declared = names at reconciled
  generalize flagged : (properties.map fun p => { p with required := names.contains p.name }) = made
    at reconciled
  -- Made again of its own parts, an object requires the same names and marks the same properties.
  have again : requiredNames made names = names :=
    names_settled reconciled.distinct fun p listed marked => by
      rw [← flagged] at listed
      obtain ⟨q, _, rfl⟩ := List.mem_map.mp listed
      exact List.contains_iff_mem.mp marked
  have same : (made.map fun p => { p with required := names.contains p.name }) = made := by
    rw [← flagged, List.map_map]
    rfl
  obtain ⟨make, own, additional, discriminator, shaped, replaced, checked⟩ | ⟨issues, refused⟩ :=
    object_fields_checked id name rest
  · have first : create properties declared = .ok (make (.object made names additional discriminator)) :=
      flagged ▸ object_settled id name rest shaped replaced checked requires
    have second := object_settled id name rest shaped replaced checked again
    rw [same] at second
    refine ⟨fun _ => ⟨_, first⟩, ?_⟩
    rw [checked]
    refine ⟨own, made, names, additional, discriminator, shaped _, ?_, reconciled, second.trans first.symm⟩
    rw [replaced]
    exact first
  · have stopped : create properties declared = .error (.rejected ⟨"ObjectType", issues, false⟩) := by
      simp only [create, object_made, refused]
    refine ⟨fun none => ?_, ?_⟩
    · subst none
      have made := object_alone id name
      rw [refused] at made
      cases made
    · rw [refused]
      exact stopped

end Making

end ApiSchema
