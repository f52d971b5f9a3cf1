import ApiSchema.Proofs.Target.Independence
import ApiSchema.Proofs.Text.Spelling

namespace ApiSchema

def Mapped.constants (mapped : Mapped) : List (String × Literal) :=
  match mapped.detail with
  | some (.constants _ pairs _) => pairs
  | _ => []

namespace Mapper

def residue (language : Language) (value : Literal) : List (List Char) :=
  let text := value.toScalar.display.toList
  if language = .go then [Text.keptLetters text] else Text.keptWords text

theorem constant_name_iff (language : Language) (name : String) (a b : Literal) :
    constantName language name a = constantName language name b ↔
      residue language a = residue language b := by
  unfold constantName residue
  by_cases go : language = .go
  · simp only [if_pos go, List.cons.injEq, and_true, ← Text.type_name_iff]
    constructor
    · intro same
      have spelled := congrArg String.toList same
      simpa using spelled
    · intro same
      rw [same]
  · simp only [if_neg go, ← Text.snake_case_iff]
    constructor
    · intro same
      have spelled := congrArg String.toList same
      simpa using spelled
    · intro same
      rw [same]

theorem used_detail (c : Capabilities) (nullable : Bool) (usage : Usage) (mapped : Mapped) :
    (used c nullable usage mapped).detail = mapped.detail := by
  have boxed (mapped : Mapped) : (box c mapped).detail = mapped.detail := by
    unfold box
    split <;> rfl
  unfold used
  split
  · unfold optional
    split
    · split
      · rfl
      · split
        · rfl
        · split <;> rfl
    · exact boxed mapped
  · split
    · exact boxed mapped
    · rfl

theorem enum_made {language : Language} (strategy : language.capabilities.enumStrategy = .constants)
    (name : String) (values : List EnumValue) (kind : EnumKind) :
    ∃ mapped predicate, enumOf language name values kind =
        printed (values.all fun v => v.value.toScalar.isShort) mapped ∧
      mapped.detail = some (.constants (language.capabilities.primitive (enumBase values kind))
        (values.map fun v => (constantName language name v.value, v.value)) predicate) := by
  simp only [enumOf, strategy]
  exact ⟨_, _, rfl, rfl⟩

theorem enum_rendered {m : Mapper} {d : TypeDefinition} {values : List EnumValue} {kind : EnumKind}
    {ref : TypeRef} (found : m.schema.definition? ref.typeId = some d)
    (shape : d.shape = .enum values kind) (plain : m.customFor d = none) (naming : String → String)
    (fuel : Nat) (usage : Usage) :
    m.rendered naming (fuel + 1) [] ref usage =
      (enumOf m.language (naming d.id) values kind).map (used m.capabilities ref.nullable usage) := by
  obtain ⟨_, own⟩ := definition_listed found
  have named : m.definition ref.typeId = .ok d := by simp only [definition, found]
  have named' : m.definition d.id = .ok d := by rw [own, named]
  have mapped (inner : TypeRef → Except Fault Mapped) :
      m.renderedDefinition naming [] inner d = enumOf m.language (naming d.id) values kind := by
    simp only [renderedDefinition, plain, List.contains_nil, mapShape, shape, Mapper.named, named',
      of_except_same]
    rfl
  rw [rendered, named]
  change (m.renderedDefinition naming [] _ d >>= _) = _
  rw [mapped]
  cases enumOf m.language (naming d.id) values kind <;> rfl

theorem enum_answered (s : Schema) (language : Language) (custom : List (String × String)) {ref : TypeRef}
    {d : TypeDefinition} {values : List EnumValue} {kind : EnumKind}
    (strategy : language.capabilities.enumStrategy = .constants)
    (found : s.definition? ref.typeId = some d) (shape : d.shape = .enum values kind)
    (plain : (make s language custom).customFor d = none) (history : List Request) (usage : Usage) :
    let m := (make s language custom).after history
    ∃ name mapped predicate, (m.run (m.mapType ref usage)).1 =
        printed (values.all fun v => v.value.toScalar.isShort) mapped ∧
      mapped.detail = some (.constants (language.capabilities.primitive (enumBase values kind))
        (values.map fun v => (constantName language name v.value, v.value)) predicate) := by
  intro m
  let last := ((make s language custom).after (history ++ [.type ref usage])).names
  have answered := answer_after s language custom history ref usage _ (naming_of last)
  have rendered := enum_rendered (m := make s language custom) found shape plain
    (fun id => (last.name? id).getD "") (usualDepth - 1) usage
  obtain ⟨mapped, predicate, made, detail⟩ := enum_made strategy ((last.name? d.id).getD "") values kind
  change _ = (enumOf language _ values kind).map _ at rendered
  rw [made, printed_map] at rendered
  exact ⟨(last.name? d.id).getD "", _, predicate, answered.trans rendered, (used_detail ..).trans detail⟩

/-- Whatever was asked before, an enum is mapped if its values can be printed, and only then: to one
constant for each of them, in order. Their names are different exactly if what is left of the values
is. -/
theorem constants_distinct_iff (s : Schema) (language : Language) (custom : List (String × String))
    (ref : TypeRef) {d : TypeDefinition} {values : List EnumValue} {kind : EnumKind}
    (strategy : language.capabilities.enumStrategy = .constants)
    (found : s.definition? ref.typeId = some d) (shape : d.shape = .enum values kind)
    (plain : (make s language custom).customFor d = none) (history : List Request) (usage : Usage) :
    let m := (make s language custom).after history
    ∃ mapped, (m.run (m.mapType ref usage)).1 =
        printed (values.all fun v => v.value.toScalar.isShort) mapped ∧
      mapped.constants.map Prod.snd = values.map (·.value) ∧
      ((mapped.constants.map Prod.fst).Nodup ↔ (values.map fun v => residue language v.value).Nodup) := by
  intro m
  obtain ⟨name, mapped, _, answered, detail⟩ :=
    enum_answered s language custom strategy found shape plain history usage
  have constants : mapped.constants = values.map fun v => (constantName language name v.value, v.value) := by
    rw [Mapped.constants, detail]
  refine ⟨mapped, answered, ?_, ?_⟩
  · rw [constants, List.map_map]
    rfl
  · simp only [constants, List.map_map, List.Nodup, List.pairwise_map, Function.comp_apply, ne_eq,
      constant_name_iff]

def choice (values : List Literal) : Schema where
  metadata := sampleMetadata
  types := [⟨"type_0", "Choice", none, none, none, none,
    .enum (values.map fun v => { value := v, name := v.toScalar.display }) .string⟩]

def chosen (language : Language) (values : List Literal) : Except Fault Mapped :=
  let m := make (choice values) language []
  (m.run (m.mapType ⟨"type_0", false⟩ {})).1

theorem choice_apart :
    let values : List Literal := [.text "user", .text "tool-use", .text "2"]
    (∃ mapped, chosen .go values = .ok mapped ∧ mapped.constants.map Prod.snd = values ∧
      (mapped.constants.map Prod.fst).Nodup) ∧
    ∃ mapped, chosen .javascript values = .ok mapped ∧ mapped.constants.map Prod.snd = values ∧
      (mapped.constants.map Prod.fst).Nodup := by
  intro values
  constructor
  · obtain ⟨mapped, answered, each, names⟩ :=
      constants_distinct_iff (choice values) .go [] ⟨"type_0", false⟩ rfl rfl rfl rfl [] {}
    exact ⟨mapped, answered, each, names.mpr (by decide +kernel)⟩
  · obtain ⟨mapped, answered, each, names⟩ :=
      constants_distinct_iff (choice values) .javascript [] ⟨"type_0", false⟩ rfl rfl rfl rfl [] {}
    exact ⟨mapped, answered, each, names.mpr (by decide +kernel)⟩

/-- Values that differ only in the mark between their parts have one constant. -/
theorem choice_collides :
    let values : List Literal := [.text "a-b", .text "a_b"]
    values.Nodup ∧
      (chosen .go values).toOption.map Mapped.constants =
        some [("ChoiceAB", .text "a-b"), ("ChoiceAB", .text "a_b")] ∧
      (chosen .javascript values).toOption.map Mapped.constants =
        some [("A_B", .text "a-b"), ("A_B", .text "a_b")] := by
  decide +kernel

end Mapper

end ApiSchema
