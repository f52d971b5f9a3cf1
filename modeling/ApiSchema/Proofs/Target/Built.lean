import ApiSchema.Proofs.Target.Constants
import ApiSchema.Proofs.Target.Shadowing

/-!
Expressions by what they are built of.

Where no expressions are given for types, every answer is built of names and of the texts of the
table, one container or one union at a time. What holds of names and texts and is kept by each way
to build holds of every answer of a run.
-/

namespace ApiSchema

def Mapped.variants (mapped : Mapped) : List String :=
  match mapped.detail with
  | some (.union _ variants _ _) => variants
  | _ => []

def Mapped.variantImports (mapped : Mapped) : List String :=
  match mapped.detail with
  | some (.union _ _ imports _) => imports
  | _ => []

def Names.called (names : Names) (id : String) : String := (names.name? id).getD "_"

theorem Names.called_agrees (names : Names) : names.Agrees names.called :=
  fun _ _ held => by simp [called, held]

namespace Mapper

/-- What an answer can be built as: by itself, or (if `inside`) as part of another. -/
inductive Built (c : Capabilities) : (inside : Bool) → Mapped → Prop
  | name {name : String} : Text.IsTypeName name.toList → Built c false { expression := name }
  | constants {name : String} (base : String) (pairs : List (String × Literal)) (predicate : String) :
      Text.IsTypeName name.toList →
        Built c false { expression := name, detail := some (.constants base pairs predicate) }
  | primitive (kind : PrimitiveKind) (constraints : Option Constraints) :
      Built c false (primitive c kind constraints)
  | any : Built c false (anyOf c)
  | placeholder (metadata : Fields) :
      Built c false { anyOf c with detail := some (.placeholder metadata) }
  | sequence {item : Mapped} : Built c true item → Built c false (sequenceOf c item)
  | map {value : Mapped} : Built c true value → Built c false (mapOf c value)
  | anyMap : Built c false (mapOf c (anyOf c))
  | inline {variants : List Mapped} : c.unionStrategy = .inline →
      (∀ v ∈ variants, Built c true v) → Built c false (inlineUnion c variants)
  | union {name : String} {variants : List Mapped} (discriminator : Option String) :
      Text.IsTypeName name.toList → (∀ v ∈ variants, Built c true v) →
        Built c false
          { expression := name
            detail := some (.union c.unionStrategy (variants.map (·.expression)).eraseDups
              (mergeImports (variants.map (·.imports))) discriminator) }
  | inside (nullable : Bool) {bare : Mapped} : Built c false bare →
      Built c true (used c nullable { nested := true } bare)

theorem used_variants (c : Capabilities) (nullable : Bool) (usage : Usage) (mapped : Mapped) :
    (used c nullable usage mapped).variants = mapped.variants ∧
      (used c nullable usage mapped).variantImports = mapped.variantImports := by
  simp only [Mapped.variants, Mapped.variantImports, used_detail, and_self]

theorem primitive_alone (c : Capabilities) (kind : PrimitiveKind) (constraints : Option Constraints) :
    (primitive c kind constraints).variants = [] ∧ (primitive c kind constraints).variantImports = [] := by
  unfold primitive
  simp only []
  split <;> exact ⟨rfl, rfl⟩

theorem inline_alone (c : Capabilities) (variants : List Mapped) :
    (inlineUnion c variants).variants = [] ∧ (inlineUnion c variants).variantImports = [] := by
  unfold inlineUnion
  simp only []
  split <;> exact ⟨rfl, rfl⟩

section Rendered

variable {m : Mapper} {naming : String → String} {within : List String}
  {inner : TypeRef → Except Fault Mapped} {d : TypeDefinition} {mapped : Mapped}

theorem each_holds {α β : Type} {step : α → Except Fault β} {P : β → Prop}
    (each : ∀ a b, step a = .ok b → P b) {items : List α} {made : List β}
    (ok : items.mapM step = .ok made) : ∀ b ∈ made, P b := by
  have pairs := each_made ok
  clear ok
  induction pairs with
  | nil => simp
  | @cons a b _ _ front _ ih => simpa using ⟨each a b front, ih⟩

theorem enum_built {language : Language} {name : String} {values : List EnumValue} {kind : EnumKind}
    (form : Text.IsTypeName name.toList) (ok : enumOf language name values kind = .ok mapped) :
    Built language.capabilities false mapped := by
  cases strategy : language.capabilities.enumStrategy with
  | native =>
      simp only [enumOf, strategy] at ok
      cases ok
      exact .name form
  | constants =>
      simp only [enumOf, strategy] at ok
      exact printed_text ok ▸ .constants _ _ _ form

theorem shape_built (names : ∀ id, Text.IsTypeName (naming id).toList)
    (parts : ∀ ref part, inner ref = .ok part → Built m.capabilities true part)
    (ok : m.mapShape (m.named naming) inner d = .ok mapped) : Built m.capabilities false mapped := by
  have own {id name : String} (ok : m.named naming id = .ok name) : Text.IsTypeName name.toList :=
    named_ok ok ▸ names id
  unfold mapShape at ok
  cases shape : d.shape with
  | primitive kind constraints =>
      simp only [shape] at ok
      cases ok
      exact .primitive kind constraints
  | «enum» values kind =>
      simp only [shape] at ok
      obtain ⟨name, named, ok⟩ := bound_ok ok
      rw [of_except_same] at ok
      exact enum_built (own named) ok
  | array items =>
      simp only [shape] at ok
      obtain ⟨item, made, rfl⟩ := map_ok ok
      exact .sequence (parts _ _ made)
  | object properties required additional =>
      simp only [shape] at ok
      split at ok
      · cases ok
        exact .placeholder _
      · split at ok
        · obtain ⟨name, named, rfl⟩ := map_ok ok
          exact .name (own named)
        · split at ok
          · obtain ⟨value, made, rfl⟩ := map_ok ok
            exact .map (parts _ _ made)
          · cases ok
            exact .anyMap
  | union variants discriminator =>
      simp only [shape] at ok
      obtain ⟨made, all, ok⟩ := bound_ok ok
      have each := each_holds parts all
      split at ok
      next inline =>
        cases ok
        exact .inline inline each
      next =>
        obtain ⟨name, named, rfl⟩ := map_ok ok
        exact .union discriminator (own named) each

-- Induction on the fuel: what is inside has been built with less.
theorem rendered_built (plain : m.custom = []) (names : ∀ id, Text.IsTypeName (naming id).toList)
    {fuel : Nat} {ref : TypeRef} {usage : Usage}
    (ok : m.rendered naming fuel within ref usage = .ok mapped) :
    ∃ bare, Built m.capabilities false bare ∧
      mapped = used m.capabilities ref.nullable usage bare := by
  induction fuel generalizing within ref usage mapped with
  | zero => cases ok
  | succ fuel ih =>
      obtain ⟨d, found, ok⟩ := bound_ok ok
      obtain ⟨bare, made, rfl⟩ := map_ok ok
      refine ⟨bare, ?_, rfl⟩
      have free : m.customFor d = none := by simp [customFor, plain]
      simp only [renderedDefinition, free] at made
      split at made
      · obtain ⟨name, named, rfl⟩ := map_ok made
        exact .name (named_ok named ▸ names d.id)
      · refine shape_built names (fun ref part ok => ?_) made
        obtain ⟨bare, built, rfl⟩ := ih ok
        exact .inside ref.nullable built

end Rendered

section Runs

variable (s : Schema) (language : Language) (history : List Request) (ref : TypeRef) (usage : Usage)

def namesBy : Names :=
  let m := (make s language []).after history
  (m.run (m.mapType ref usage)).2.names

theorem names_after : namesBy s language history ref usage =
    ((make s language []).after (history ++ [.type ref usage])).names := by
  rw [after, List.foldl_append]
  rfl

theorem names_called (id : String) :
    Text.IsTypeName ((namesBy s language history ref usage).called id).toList := by
  unfold Names.called
  rw [names_after]
  cases held : ((make s language []).after (history ++ [.type ref usage])).names.name? id with
  | none =>
      have word : "_".toList.all Text.isWordChar = true := by decide
      exact ⟨by decide, List.all_eq_true.mp word, by decide⟩
  | some name => exact (running_proper (after_running s language [] _) held).form

variable {s language history ref usage} {mapped : Mapped}

theorem answer_rendered
    (answered : (((make s language []).after history).run
      (((make s language []).after history).mapType ref usage)).1 = .ok mapped) :
    (make s language []).rendered (namesBy s language history ref usage).called usualDepth [] ref usage =
      .ok mapped := by
  rw [← answered, names_after]
  exact (answer_after s language [] history ref usage _ (Names.called_agrees _)).symm

theorem answer_built
    (answered : (((make s language []).after history).run
      (((make s language []).after history).mapType ref usage)).1 = .ok mapped) :
    ∃ bare, Built language.capabilities false bare ∧
      mapped = used language.capabilities ref.nullable usage bare :=
  rendered_built rfl (names_called s language history ref usage) (answer_rendered answered)

end Runs

def table : Schema where
  metadata := sampleMetadata
  types :=
    [{ id := "type_0", name := "Table", shape := .object [] [] (some (.type ⟨"type_1", true⟩)) none },
     { id := "type_1", name := "Row", shape := .array ⟨"type_2", false⟩ none none none },
     { id := "type_2", name := "Cell", shape := .union [⟨"type_3", false⟩, ⟨"type_1", true⟩] none none },
     { id := "type_3", name := "Number", shape := .primitive .integer none }]

def tabled (language : Language) (id : String) : Except Fault Mapped :=
  let m := make table language []
  (m.run (m.mapType ⟨id, false⟩ {})).1

theorem tabled_answers (language : Language) : ∀ t ∈ table.types, ∃ mapped, tabled language t.id = .ok mapped := by
  intro t listed
  have made : ∀ t ∈ table.types, (tabled language t.id).toOption.isSome = true := by
    cases language <;> decide +kernel
  have some := made t listed
  cases answered : tabled language t.id with
  | ok mapped => exact ⟨mapped, rfl⟩
  | error f => simp [answered, Except.toOption] at some

end Mapper

end ApiSchema
