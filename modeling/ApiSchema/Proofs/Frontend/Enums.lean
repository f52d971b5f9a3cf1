import ApiSchema.Proofs.Frontend.RoundTrip
import ApiSchema.Proofs.Target.Constants

namespace ApiSchema

def Uniform (values : List EnumValue) : Prop :=
  (∀ v ∈ values, v.value.isText = true) ∨ ∀ v ∈ values, v.value.isText = false

def EnumKind.Covers (kind : EnumKind) (values : List EnumValue) : Prop :=
  match kind with
  | .string => ∀ v ∈ values, v.value.isText = true
  | .number => ∀ v ∈ values, v.value.isText = false

theorem covers_iff {values : List EnumValue} {kind : EnumKind} (tidy : (Shape.enum values kind).Tidy) :
    kind.Covers values ↔ Uniform values := by
  cases kind with
  | string =>
      refine ⟨.inl, fun uniform => ?_⟩
      obtain texts | numbers := uniform
      · exact texts
      · cases values with
        | nil => exact fun _ none => absurd none List.not_mem_nil
        | cons v rest =>
            have text := tidy.1.mp rfl v rfl
            rw [numbers v (List.mem_cons_self ..)] at text
            cases text
  | number =>
      refine ⟨.inr, fun uniform => ?_⟩
      obtain texts | numbers := uniform
      · have string := tidy.1.mpr fun v first => texts v (List.mem_of_head? first)
        cases string
      · exact numbers

namespace Mapper

def Belongs (language : Language) (base : String) : Literal → Prop
  | .text _ => base = "string"
  | .int n => language = .javascript ∧ base = "number" ∨
      language = .go ∧ (base = "int64" ∧ -2 ^ 63 ≤ n ∧ n < 2 ^ 63 ∨
        base = "float64" ∧ (Binary64.ofInt n).isFinite = true)
  | .float _ => language = .javascript ∧ base = "number" ∨ language = .go ∧ base = "float64"

/-- An integer is in the range of the type that Go has for it, by itself or among other numbers. -/
def InRange (language : Language) (whole : Bool) (l : Literal) : Prop :=
  language = .go → ∀ n, l = .int n →
    if whole = true then -2 ^ 63 ≤ n ∧ n < 2 ^ 63 else (Binary64.ofInt n).isFinite = true

variable {language : Language} {values : List EnumValue} {kind : EnumKind}

theorem belongs_string (strategy : language.capabilities.enumStrategy = .constants) {l : Literal} :
    Belongs language language.capabilities.string l ↔ l.isText = true := by
  cases language with
  | go => cases l <;> simp [Belongs, Language.capabilities, Language.goTypes, Literal.isText]
  | javascript => cases l <;> simp [Belongs, Language.capabilities, Language.javascriptTypes, Literal.isText]
  | _ => cases strategy

theorem belongs_integer (strategy : language.capabilities.enumStrategy = .constants) {l : Literal}
    (only : isInteger l = true) :
    Belongs language language.capabilities.integer l ↔ InRange language true l := by
  cases l with
  | int n =>
      cases language with
      | go => simp [Belongs, InRange, Language.capabilities, Language.goTypes]
      | javascript => simp [Belongs, InRange, Language.capabilities, Language.javascriptTypes]
      | _ => cases strategy
  | _ => cases only

theorem belongs_float (strategy : language.capabilities.enumStrategy = .constants) {l : Literal} :
    Belongs language language.capabilities.float l ↔ l.isText = false ∧ InRange language false l := by
  cases language with
  | go => cases l <;> simp [Belongs, InRange, Language.capabilities, Language.goTypes, Literal.isText]
  | javascript =>
      cases l <;> simp [Belongs, InRange, Language.capabilities, Language.javascriptTypes, Literal.isText]
  | _ => cases strategy

theorem integer_number {l : Literal} (only : isInteger l = true) : l.isText = false := by
  cases l with
  | int n => rfl
  | _ => cases only

def Ranged (language : Language) (values : List EnumValue) : Prop :=
  ∀ v ∈ values, InRange language (values.all fun v => isInteger v.value) v.value

theorem ranged_texts (texts : ∀ v ∈ values, v.value.isText = true) : Ranged language values := by
  intro v member _ n same
  have text := texts v member
  rw [same] at text
  cases text

theorem numbers_belong (strategy : language.capabilities.enumStrategy = .constants) :
    (∀ v ∈ values, Belongs language (language.capabilities.primitive (enumBase values .number)) v.value) ↔
      (∀ v ∈ values, v.value.isText = false) ∧ Ranged language values := by
  unfold enumBase Ranged
  cases whole : values.all fun v => isInteger v.value with
  | true =>
      have only := List.all_eq_true.mp whole
      have numbers : ∀ v ∈ values, v.value.isText = false := fun v member => integer_number (only v member)
      rw [and_iff_right numbers]
      exact forall₂_congr fun v member => belongs_integer strategy (only v member)
  | false =>
      rw [← forall₂_and]
      exact forall₂_congr fun v _ => belongs_float strategy

-- The base type of an enum has all its values exactly if they are of one kind and in its range.
theorem base_belongs (strategy : language.capabilities.enumStrategy = .constants)
    (tidy : (Shape.enum values kind).Tidy) :
    (∀ v ∈ values, Belongs language (language.capabilities.primitive (enumBase values kind)) v.value) ↔
      Uniform values ∧ Ranged language values := by
  rw [← covers_iff tidy]
  cases kind with
  | string =>
      have texts : (∀ v ∈ values, Belongs language language.capabilities.string v.value) ↔
          ∀ v ∈ values, v.value.isText = true := forall₂_congr fun _ _ => belongs_string strategy
      exact texts.trans (and_iff_left_of_imp ranged_texts).symm
  | number => exact numbers_belong strategy

-- Whatever a mapper was asked before, it gives the constants of an enum a type that has them exactly if
-- the values are of one kind and in its range.
theorem enum_belongs {s : Schema} (language : Language) (custom : List (String × String)) (ref : TypeRef)
    {t : TypeDefinition} (strategy : language.capabilities.enumStrategy = .constants)
    (tidy : t.shape.Tidy) (found : s.definition? ref.typeId = some t)
    (shape : t.shape = .enum values kind) (plain : (make s language custom).customFor t = none)
    (history : List Request) (usage : Usage) :
    let m := (make s language custom).after history
    ∃ mapped base constants predicate, (m.run (m.mapType ref usage)).1 = .ok mapped ∧
      mapped.detail = some (.constants base constants predicate) ∧
      constants.map Prod.snd = values.map (·.value) ∧
      ((∀ constant ∈ constants, Belongs language base constant.2) ↔
        Uniform values ∧ Ranged language values) := by
  intro m
  have tidy : (Shape.enum values kind).Tidy := shape ▸ tidy
  obtain ⟨_, mapped, predicate, answered, detail⟩ :=
    enum_answered s language custom strategy found shape plain history usage
  rw [printed, if_pos (List.all_eq_true.mpr tidy.2)] at answered
  refine ⟨mapped, _, _, predicate, answered, detail, ?_, ?_⟩
  · rw [List.map_map]
    rfl
  · rw [List.forall_mem_map]
    exact base_belongs strategy tidy

end Mapper

namespace Frontend

variable {f : Frontend} {options : FrontendOptions} {s : Schema} {surround : Surround} {source : DocumentSource}

/-- The kind of an enum is that of all its values exactly if they are of one kind. Whatever a mapper was
asked before, it gives the constants of the enum a type that has them exactly if they also are in its
range. -/
theorem enum_values_agree_iff (known : f = openApi ∨ f = dialect)
    (parsed : (f.parse options surround source).schema = some s) {t : TypeDefinition} (member : t ∈ s.types)
    {values : List EnumValue} {kind : EnumKind} (shape : t.shape = .enum values kind) :
    (kind.Covers values ↔ Uniform values) ∧
    ∀ language : Language, language.capabilities.enumStrategy = .constants →
      ∀ custom ref, s.definition? ref.typeId = some t → (Mapper.make s language custom).customFor t = none →
        ∀ history usage, let m := (Mapper.make s language custom).after history
          ∃ mapped base constants predicate, (m.run (m.mapType ref usage)).1 = .ok mapped ∧
            mapped.detail = some (.constants base constants predicate) ∧
            constants.map Prod.snd = values.map (·.value) ∧
            ((∀ constant ∈ constants, Mapper.Belongs language base constant.2) ↔
              Uniform values ∧ Mapper.Ranged language values) := by
  have tidy : t.shape.Tidy := ((parsed_tidy known parsed).types t member).shape
  exact ⟨covers_iff (shape ▸ tidy), fun language strategy custom ref found plain =>
    Mapper.enum_belongs language custom ref strategy tidy found shape plain⟩

def enumerating (values : List Value) : DocumentSource := describing (.map [(.text "enum", .list values)])

def firstEnum (source : DocumentSource) : Option (List Literal × EnumKind) := do
  let s ← (openApi.parse openApi.defaultOptions nowhere source).schema
  let t ← s.definition? "type_0"
  match t.shape with
  | .enum values kind => some (values.map (·.value), kind)
  | _ => none

theorem first_enum {source : DocumentSource} {literals : List Literal} {kind : EnumKind}
    (first : firstEnum source = some (literals, kind)) :
    ∃ s t values, (openApi.parse openApi.defaultOptions nowhere source).schema = some s ∧
      s.definition? "type_0" = some t ∧ t.shape = .enum values kind ∧ values.map (·.value) = literals := by
  obtain ⟨s, parsed, first⟩ := Option.bind_eq_some_iff.mp first
  obtain ⟨t, found, first⟩ := Option.bind_eq_some_iff.mp first
  split at first
  next values _ shape =>
    cases first
    exact ⟨s, t, values, parsed, found, shape, rfl⟩
  next => cases first

theorem numbers_agree : ∃ s t values,
    (openApi.parse openApi.defaultOptions nowhere (enumerating [.int 1, .null, .int 2])).schema = some s ∧
    t ∈ s.types ∧ t.shape = .enum values .number ∧ values.map (·.value) = [.int 1, .int 2] ∧
    EnumKind.number.Covers values ∧ ∃ mapped base constants predicate,
      ((Mapper.make s .go []).run ((Mapper.make s .go []).mapType ⟨"type_0", false⟩ {})).1 = .ok mapped ∧
      mapped.detail = some (.constants base constants predicate) ∧
      constants.map Prod.snd = [.int 1, .int 2] ∧
      ∀ constant ∈ constants, Mapper.Belongs .go base constant.2 := by
  have first : firstEnum (enumerating [.int 1, .null, .int 2]) = some ([.int 1, .int 2], .number) := by
    decide +kernel
  obtain ⟨s, t, values, parsed, found, shape, two⟩ := first_enum first
  obtain ⟨member, -⟩ := definition_listed found
  obtain ⟨kinds, mapped⟩ := enum_values_agree_iff (.inl rfl) parsed member shape
  have each (P : Literal → Prop) : (∀ v ∈ values, P v.value) ↔ P (.int 1) ∧ P (.int 2) := by
    rw [← List.forall_mem_map, two]
    simp
  have numbers : ∀ v ∈ values, v.value.isText = false := (each fun l => l.isText = false).mpr ⟨rfl, rfl⟩
  have whole : values.all (fun v => Mapper.isInteger v.value) = true :=
    List.all_eq_true.mpr ((each fun l => Mapper.isInteger l = true).mpr ⟨rfl, rfl⟩)
  have ranged : Mapper.Ranged .go values := by
    unfold Mapper.Ranged
    rw [whole]
    refine (each (Mapper.InRange .go true)).mpr ⟨?_, ?_⟩ <;>
    · rintro - n ⟨⟩
      simp
  obtain ⟨answer, base, constants, predicate, answered, detail, values', belong⟩ :=
    mapped .go rfl [] ⟨"type_0", false⟩ found rfl [] {}
  exact ⟨s, t, values, parsed, member, shape, two, kinds.mpr (.inr numbers), answer, base, constants, predicate,
    answered, detail, values'.trans two, belong.mpr ⟨.inr numbers, ranged⟩⟩

/-- A number behind a text is listed in an enum of strings, and Go is to hold it in that type. -/
theorem mixed_disagrees : ∃ s t values,
    (openApi.parse openApi.defaultOptions nowhere (enumerating [.text "a", .int 1])).schema = some s ∧
    t ∈ s.types ∧ t.shape = .enum values .string ∧ values.map (·.value) = [.text "a", .int 1] ∧
    ¬ EnumKind.string.Covers values ∧ ∃ mapped base constants predicate,
      ((Mapper.make s .go []).run ((Mapper.make s .go []).mapType ⟨"type_0", false⟩ {})).1 = .ok mapped ∧
      mapped.detail = some (.constants base constants predicate) ∧
      ¬ ∀ constant ∈ constants, Mapper.Belongs .go base constant.2 := by
  have first : firstEnum (enumerating [.text "a", .int 1]) = some ([.text "a", .int 1], .string) := by
    decide +kernel
  obtain ⟨s, t, values, parsed, found, shape, two⟩ := first_enum first
  obtain ⟨member, -⟩ := definition_listed found
  have tidy : t.shape.Tidy := ((parsed_tidy (.inl rfl) parsed).types t member).shape
  have mixed : ¬ EnumKind.string.Covers values := by
    intro covers
    have texts : ∀ l ∈ values.map (·.value), l.isText = true := List.forall_mem_map.mpr covers
    rw [two] at texts
    cases texts (.int 1) (by simp)
  obtain ⟨mapped, base, constants, predicate, answered, detail, -, belong⟩ :=
    Mapper.enum_belongs .go [] ⟨"type_0", false⟩ rfl tidy found shape rfl [] {}
  refine ⟨s, t, values, parsed, member, shape, two, mixed, mapped, base, constants, predicate, answered,
    detail, fun all => mixed ?_⟩
  exact (covers_iff (shape ▸ tidy)).mpr (belong.mp all).1

end Frontend

end ApiSchema
