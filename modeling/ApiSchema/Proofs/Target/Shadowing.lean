import ApiSchema.Proofs.Target.Independence
import ApiSchema.Proofs.Text.Identifiers

/-!
Names of types and what the table of languages writes by itself.

A name begins with a capital or an underscore and is not reserved. What an entry of the table puts
into expressions or has imported is reserved too, or begins with a small letter, with one exception:
the type that Python has for texts of the format `uuid`. So two variants of an inline union of which
one is a type with a name and the other is not are written differently, save when the one is called
`UUID` and the other is that type.
-/

namespace ApiSchema

def Capabilities.fixed (c : Capabilities) : List String :=
  PrimitiveKind.all.map c.primitive ++ c.anyType :: c.formats.map (·.2.1) ++ c.boxed.map (·.2)

def Capabilities.templates (c : Capabilities) : List Template :=
  [c.sequence, c.map, c.optional, c.union] ++ c.pointer.toList

def Capabilities.imports (c : Capabilities) : List String :=
  c.sequenceImports ++ c.mapImports ++ c.anyImports ++ c.optionalImports ++ c.unionImports ++
    c.formats.flatMap (·.2.2)

def importedNames (line : String) : List String :=
  match Text.identifiers line with
  | "using" :: _ => []
  | words => words.getLast?.toList

/-- All identifiers that the entry of a language can put into an expression or into scope. -/
def Capabilities.identifiers (c : Capabilities) : List String :=
  (c.fixed ++ c.unionSeparator :: c.templates.flatMap fun t => [t.before, t.after]).flatMap
    Text.identifiers ++ c.imports.flatMap importedNames

namespace Mapper

variable {m : Mapper} {p q : Progress} {α : Type}

/-- What a run of the mapper may come to: all names were given to types of the schema one after the
other, first of all to those that the language names. -/
structure Running (m : Mapper) (p : Progress) : Prop where
  names : Naming m.schema ⟨m.capabilities.reserved, []⟩ p.names
  nominal : ∀ t ∈ m.schema.types, isNominal m.capabilities t = true → ∃ name, p.names.name? t.id = some name

theorem running_later (running : m.Running p) (given : Naming m.schema p.names q.names) : m.Running q := by
  refine ⟨naming_trans running.names given, fun t listed nominal => ?_⟩
  obtain ⟨name, held⟩ := running.nominal t listed nominal
  exact ⟨name, Names.within_name (naming_within given) held⟩

theorem make_running (s : Schema) (language : Language) (custom : List (String × String)) :
    (make s language custom).Running (make s language custom).toProgress :=
  ⟨make_names s language custom, fun _ listed nominal => nominal_named custom listed nominal⟩

structure Proper (m : Mapper) (name : String) : Prop where
  form : Text.IsTypeName name.toList
  free : name ∉ m.capabilities.reserved

theorem asked_form (language : Language) (d : TypeDefinition) :
    Text.IsTypeName (asked language d).toList := by
  have wanted : Text.IsTypeName (wantedName d).toList := by
    simpa [wantedName] using Text.type_name_form d.name.toList
  unfold asked Names.unreserved
  split
  · have word : "Model".toList.all Text.isWordChar = true := by decide
    rw [String.toList_append]
    exact wanted.append (List.all_eq_true.mp word)
  · exact wanted

theorem running_proper (running : m.Running p) {id name : String}
    (held : p.names.name? id = some name) : m.Proper name := by
  have member := Names.lookup_member held
  constructor
  · have all := @naming_suits _ m.language _ _ running.names rfl fun _ member => by cases member
    obtain ⟨d, suited⟩ := all _ member
    obtain (same : name = _) | ⟨k, (same : name = _)⟩ := suited.may
    · rw [same]
      exact asked_form m.language d
    · rw [same, String.toList_append]
      refine (asked_form m.language d).append fun c digit => ?_
      have numeral : c.isDigit := decimal_digit (by simpa using digit)
      simp [Text.isWordChar, Text.isLetterOrDigit, numeral]
  · have free := naming_unreserved running.names (reserved_clear m.language) fun _ member => by cases member
    have reserved : p.names.reserved = m.capabilities.reserved := (naming_within running.names).reserved
    exact reserved ▸ free _ member

-- Whatever the table writes is reserved or begins with a small letter, but for one entry.
theorem identifier_cases (language : Language) {name : String}
    (listed : name ∈ language.capabilities.identifiers) :
    name ∈ language.capabilities.reserved ∨ name.toList.head?.any Char.isLower = true ∨
      language = .python ∧ name = "UUID" := by
  have all : ∀ word ∈ language.capabilities.identifiers,
      word ∈ language.capabilities.reserved ∨ word.toList.head?.any Char.isLower = true ∨
        language = .python ∧ word = "UUID" := by
    cases language <;> decide +kernel
  exact all name listed

theorem shadow_iff {name : String} (proper : m.Proper name) :
    name ∈ m.capabilities.identifiers ↔ m.language = .python ∧ name = "UUID" := by
  constructor
  · intro listed
    obtain reserved | small | exception := identifier_cases m.language listed
    · exact absurd reserved proper.free
    · exact absurd small (by simp [proper.form.front])
    · exact exception
  · rintro ⟨python, rfl⟩
    unfold capabilities
    rw [python]
    decide +kernel

end Mapper

namespace Template

variable {t u : Template}

theorem fill_front (t : Template) (x : String) : t.before.toList <+: (t.fill x).toList :=
  ⟨x.toList ++ t.after.toList, by simp [fill]⟩

theorem fill_back (t : Template) (x : String) : t.after.toList <:+ (t.fill x).toList :=
  ⟨t.before.toList ++ x.toList, by simp [fill]⟩

theorem fill_injective (t : Template) {x y : String} (same : t.fill x = t.fill y) : x = y := by
  have spelled := congrArg String.toList same
  simp only [fill, String.toList_append, List.append_assoc, List.append_cancel_left_eq,
    List.append_cancel_right_eq] at spelled
  exact String.toList_injective spelled

def Unlike (t u : Template) : Prop :=
  (¬ t.before.toList <+: u.before.toList ∧ ¬ u.before.toList <+: t.before.toList) ∨
    (¬ t.after.toList <:+ u.after.toList ∧ ¬ u.after.toList <:+ t.after.toList)

instance : Decidable (t.Unlike u) := inferInstanceAs (Decidable (_ ∨ _))

theorem fill_ne (unlike : t.Unlike u) (x y : String) : t.fill x ≠ u.fill y := by
  intro same
  rcases unlike with ⟨one, two⟩ | ⟨one, two⟩
  · exact (List.prefix_or_prefix_of_prefix (t.fill_front x) (same ▸ u.fill_front y)).elim one two
  · exact (List.suffix_or_suffix_of_suffix (t.fill_back x) (same ▸ u.fill_back y)).elim one two

def Marked (t : Template) : Prop :=
  (t.before.toList ++ t.after.toList).any (fun c => !Text.isWordChar c) = true

instance : Decidable t.Marked := inferInstanceAs (Decidable (_ = _))

theorem fill_not_word (marked : t.Marked) (x : String) {word : String}
    (plain : ∀ c ∈ word.toList, Text.isWordChar c = true) : t.fill x ≠ word := by
  rintro rfl
  obtain ⟨c, around, mark⟩ := List.any_eq_true.mp marked
  have inside : c ∈ (t.fill x).toList := by
    rcases List.mem_append.mp around with front | back
    · exact (t.fill_front x).subset front
    · exact (t.fill_back x).subset back
  simp [plain c inside] at mark

end Template

namespace Capabilities

variable {c : Capabilities}

/-- Where unions are inline: nullable values are wrapped, and what stands in a union can be told
from a name, also when one of them is nullable. -/
structure Separable (c : Capabilities) : Prop where
  wrap : c.optionalStrategy = .wrap
  unboxed : c.boxed = []
  sequence : c.sequence.Marked ∧ c.optional.Unlike c.sequence
  map : c.map.Marked ∧ c.optional.Unlike c.map
  optional : c.optional.Marked
  fixed : ∀ text ∈ c.fixed, (text ∈ c.identifiers ∨ text.toList.any (fun c => !Text.isWordChar c) = true) ∧
    ¬ (c.optional.before.toList <+: text.toList ∧ c.optional.after.toList <:+ text.toList)

theorem inline_separable {language : Language} (inline : language.capabilities.unionStrategy = .inline) :
    language.capabilities.Separable := by
  cases language with
  | rust | csharp | go | java => cases inline
  | typescript | python | javascript =>
      exact ⟨rfl, rfl, by decide, by decide, by decide, by decide +kernel⟩

inductive Writes (c : Capabilities) (own : String) : String → Prop
  | own : Writes c own own
  | fixed {text : String} : text ∈ c.fixed → Writes c own text
  | sequence (inner : String) : Writes c own (c.sequence.fill inner)
  | map (inner : String) : Writes c own (c.map.fill inner)

def wrapped (c : Capabilities) (nullable : Bool) (text : String) : String :=
  if nullable then c.optional.fill text else text

-- A name that is written like what has another name, or none, is an identifier of the table.
theorem writes_apart (separable : c.Separable) {name own text : String} {n k : Bool}
    (form : Text.IsTypeName name.toList) (word : ∀ c ∈ own.toList, Text.isWordChar c = true)
    (other : name ≠ own) (writes : c.Writes own text) (same : c.wrapped n name = c.wrapped k text) :
    name ∈ c.identifiers := by
  -- Two texts that are both wrapped, or neither, are the same before.
  have bare (plain : name = text) : name ∈ c.identifiers := by
    cases writes with
    | own => exact absurd plain other
    | fixed listed =>
        rcases (separable.fixed _ listed).1 with inside | marked
        · exact plain ▸ inside
        · obtain ⟨d, member, mark⟩ := List.any_eq_true.mp marked
          rw [← plain] at member
          simp [form.word d member] at mark
    | sequence inner => exact absurd plain.symm (Template.fill_not_word separable.sequence.1 inner form.word)
    | map inner => exact absurd plain.symm (Template.fill_not_word separable.map.1 inner form.word)
  cases n <;> cases k
  · exact bare same
  · exact absurd same.symm (Template.fill_not_word separable.optional text form.word)
  · have around : c.optional.fill name = text := same
    cases writes with
    | own => exact absurd around (Template.fill_not_word separable.optional name word)
    | fixed listed =>
        refine absurd ⟨?_, ?_⟩ (separable.fixed _ listed).2
        · exact around ▸ c.optional.fill_front name
        · exact around ▸ c.optional.fill_back name
    | sequence inner => exact absurd around (Template.fill_ne separable.sequence.2 name inner)
    | map inner => exact absurd around (Template.fill_ne separable.map.2 name inner)
  · exact bare (c.optional.fill_injective same)

end Capabilities

namespace Mapper

variable {m : Mapper} {p q : Progress} {naming : String → String} {within : List String}
  {inner : TypeRef → Except Fault Mapped} {d : TypeDefinition} {mapped : Mapped}

theorem primitive_fixed (c : Capabilities) (kind : PrimitiveKind) (constraints : Option Constraints) :
    (primitive c kind constraints).expression ∈ c.fixed := by
  unfold primitive Capabilities.fixed
  simp only []
  split
  next expression imports found =>
    split at found
    · obtain ⟨format, -, entry⟩ := Option.bind_eq_some_iff.mp found
      obtain ⟨front, back, same, _⟩ := List.lookup_eq_some_iff.mp entry
      simp [same]
    · cases found
  next => cases kind <;> simp [PrimitiveKind.all]

theorem named_ok {id name : String} (ok : m.named naming id = .ok name) : name = naming id := by
  unfold named at ok
  cases found : m.definition id with
  | error f => simp [found, Except.map] at ok
  | ok d => simpa [found, Except.map, eq_comm] using ok

theorem map_ok {α β : Type} {f : α → β} {e : Except Fault α} {b : β} (ok : f <$> e = .ok b) :
    ∃ a, e = .ok a ∧ f a = b := by
  cases e with
  | error => cases ok
  | ok a => exact ⟨a, rfl, Except.ok.inj ok⟩

theorem enum_shown {language : Language} {name : String} {values : List EnumValue} {kind : EnumKind}
    (ok : enumOf language name values kind = .ok mapped) : mapped.expression = name := by
  cases strategy : language.capabilities.enumStrategy with
  | native =>
      simp only [enumOf, strategy] at ok
      cases ok
      rfl
  | constants =>
      simp only [enumOf, strategy] at ok
      rw [printed_text ok]

-- A type with a name is written by it.
theorem nominal_written (inline : m.capabilities.unionStrategy = .inline) (plain : m.customFor d = none)
    (nominal : isNominal m.capabilities d = true)
    (ok : m.renderedDefinition naming within inner d = .ok mapped) : mapped.expression = naming d.id := by
  unfold renderedDefinition at ok
  rw [plain] at ok
  simp only at ok
  split at ok
  · obtain ⟨name, own, rfl⟩ := map_ok ok
    exact named_ok own
  · unfold isNominal at nominal
    unfold mapShape at ok
    cases shape : d.shape with
    | primitive | array => simp [shape] at nominal
    | union => simp [shape, inline] at nominal
    | «enum» values kind =>
        simp only [shape] at ok
        obtain ⟨name, own, ok⟩ := bound_ok ok
        rw [of_except_same] at ok
        rw [enum_shown ok, named_ok own]
    | object properties required additional =>
        simp only [shape, Bool.and_eq_true, Bool.not_eq_true'] at nominal ok
        rw [if_neg (by simp [nominal.1]), if_pos (by simp [nominal.2])] at ok
        obtain ⟨name, own, rfl⟩ := map_ok ok
        exact named_ok own

theorem unnamed_written (plain : m.customFor d = none) (unnamed : isNominal m.capabilities d = false)
    (shape : ∀ variants discriminator mapping, d.shape ≠ .union variants discriminator mapping)
    (ok : m.renderedDefinition naming within inner d = .ok mapped) :
    m.capabilities.Writes (naming d.id) mapped.expression := by
  have any : m.capabilities.anyType ∈ m.capabilities.fixed := by simp [Capabilities.fixed]
  unfold renderedDefinition at ok
  rw [plain] at ok
  simp only at ok
  split at ok
  · obtain ⟨name, own, rfl⟩ := map_ok ok
    exact named_ok own ▸ .own
  · unfold isNominal at unnamed
    unfold mapShape at ok
    cases same : d.shape with
    | union => exact absurd same (shape _ _ _)
    | «enum» => simp [same] at unnamed
    | primitive kind constraints =>
        simp only [same] at ok
        cases ok
        exact .fixed (primitive_fixed _ _ _)
    | array items =>
        simp only [same] at ok
        obtain ⟨item, -, rfl⟩ := map_ok ok
        exact .sequence _
    | object properties required additional =>
        simp only [same] at unnamed ok
        split at ok
        next =>
          cases ok
          exact .fixed any
        next stub =>
          have free : isFreeForm d.shape = true := by simpa [stub, same] using unnamed
          rw [same] at free
          rw [if_neg (by simp [free])] at ok
          split at ok
          · obtain ⟨value, -, rfl⟩ := map_ok ok
            exact .map _
          · cases ok
            exact .map _

theorem used_wrapped (separable : m.capabilities.Separable) (nullable : Bool) (mapped : Mapped) :
    (used m.capabilities nullable { nested := true } mapped).expression =
      m.capabilities.wrapped nullable mapped.expression := by
  have same : box m.capabilities mapped = mapped := by simp [box, separable.unboxed]
  cases nullable
  · simp [used, Capabilities.wrapped, same]
  · simp [used, optional, Capabilities.wrapped, separable.wrap, same]

theorem each_made {α β : Type} {step : α → Except Fault β} {items : List α} {made : List β}
    (ok : items.mapM step = .ok made) : List.Forall₂ (fun a b => step a = .ok b) items made := by
  induction items generalizing made with
  | nil =>
      cases ok
      exact .nil
  | cons a rest ih =>
      rw [List.mapM_cons] at ok
      obtain ⟨b, front, ok⟩ := bound_ok ok
      obtain ⟨bs, back, ok⟩ := bound_ok ok
      cases ok
      exact .cons front (ih back)

theorem rendered_ok {fuel : Nat} {ref : TypeRef} {usage : Usage} {found : TypeDefinition}
    (known : m.schema.definition? ref.typeId = some found)
    (ok : m.rendered naming fuel within ref usage = .ok mapped) :
    ∃ bare inner, m.renderedDefinition naming within inner found = .ok bare ∧
      mapped = used m.capabilities ref.nullable usage bare := by
  cases fuel with
  | zero => cases ok
  | succ fuel =>
      simp only [rendered, definition, known] at ok
      obtain ⟨bare, made, rfl⟩ := map_ok ok
      exact ⟨bare, _, made, rfl⟩

structure Variant (m : Mapper) (ref : TypeRef) (d : TypeDefinition) : Prop where
  known : m.schema.definition? ref.typeId = some d
  plain : m.customFor d = none
  shape : ∀ variants discriminator mapping, d.shape ≠ .union variants discriminator mapping

-- The names given by the end decide; types without one may be called anything, here `x`.
theorem variants_apart (running : m.Running p) (inline : m.capabilities.unionStrategy = .inline)
    {fuel : Nat} {variants : List TypeRef} {parts : List Mapped}
    (run : (variants.mapM fun ref => m.mapReference fuel ref { nested := true }).run.run p = (.ok parts, q)) :
    m.Running q ∧ ∀ ref₁ a d₁ ref₂ b d₂, (ref₁, a) ∈ variants.zip parts → (ref₂, b) ∈ variants.zip parts →
      m.Variant ref₁ d₁ → m.Variant ref₂ d₂ → isNominal m.capabilities d₁ = true →
      isNominal m.capabilities d₂ = false → a.expression = b.expression →
        m.language = .python ∧ q.names.name? d₁.id = some "UUID" := by
  have follows : m.Follows p.within _ _ :=
    follows_each (fun ref => reference_follows fuel p.within ref { nested := true }) variants
  obtain ⟨-, given, same⟩ := follows p rfl
  rw [run] at given same
  have reached := running_later running given
  refine ⟨reached, fun ref₁ a d₁ ref₂ b d₂ first second one two nominal unnamed merged => ?_⟩
  have separable : m.capabilities.Separable := Capabilities.inline_separable inline
  -- Any naming that agrees with the names given so far gives the same expressions.
  let naming := fun id => (q.names.name? id).getD "x"
  have made := same naming fun id name held => by simp [naming, held]
  obtain ⟨bare₁, _, ok₁, rfl⟩ := rendered_ok one.known (List.forall₂_zip (each_made made.symm) first)
  obtain ⟨bare₂, _, ok₂, rfl⟩ := rendered_ok two.known (List.forall₂_zip (each_made made.symm) second)
  rw [used_wrapped separable, used_wrapped separable, nominal_written inline one.plain nominal ok₁] at merged
  have written := unnamed_written two.plain unnamed two.shape ok₂
  obtain ⟨listed, id₁⟩ := definition_listed one.known
  obtain ⟨-, id₂⟩ := definition_listed two.known
  obtain ⟨name, held⟩ := reached.nominal d₁ listed nominal
  have called : naming d₁.id = name := by simp [naming, held]
  have proper := running_proper reached held
  rw [called] at merged
  -- The other variant has no name of its own here, so the name stands in its expression only as a word of
  -- the table.
  have inside : name ∈ m.capabilities.identifiers := by
    apply Capabilities.writes_apart separable proper.form _ _ written merged
    · cases other : q.names.name? d₂.id with
      | none =>
          have word : "x".toList.all Text.isWordChar = true := by decide
          simp only [naming, other, Option.getD_none]
          exact List.all_eq_true.mp word
      | some name₂ =>
          simp only [naming, other, Option.getD_some]
          exact (running_proper reached other).form.word
    · cases other : q.names.name? d₂.id with
      | none =>
          simp only [naming, other, Option.getD_none]
          rintro rfl
          exact absurd proper.form.front (by decide)
      | some name₂ =>
          simp only [naming, other, Option.getD_some]
          rintro rfl
          have apart := naming_apart reached.names ⟨List.nodup_nil, List.nodup_nil⟩
          have sameId := Names.apart_names apart held other
          have sameType : some d₁ = some d₂ := by rw [← one.known, ← two.known, ← id₁, ← id₂, sameId]
          cases sameType
          exact absurd nominal (by simp [unnamed])
  obtain ⟨python, rfl⟩ := (shadow_iff proper).mp inside
  exact ⟨python, held⟩

theorem after_running (s : Schema) (language : Language) (custom : List (String × String))
    (history : List Request) :
    (make s language custom).Running ((make s language custom).after history).toProgress :=
  running_later (make_running s language custom) (after_names _ history)

/-- In every state of a run, a name is an identifier of the table only if it is `UUID`, in Python.
Variants of an inline union that have names are written otherwise than those that have none and are
no unions, with the same exception. -/
theorem names_shadow_iff (s : Schema) (language : Language) (custom : List (String × String)) :
    let m := make s language custom
    (∀ history, m.Running (m.after history).toProgress) ∧
    (∀ p id name, m.Running p → p.names.name? id = some name →
      (name ∈ language.capabilities.identifiers ↔ language = .python ∧ name = "UUID")) ∧
    (language.capabilities.unionStrategy = .inline →
      ∀ (p q : Progress) (fuel : Nat) (variants : List TypeRef) (parts : List Mapped), m.Running p →
      (variants.mapM fun ref => m.mapReference fuel ref { nested := true }).run.run p = (.ok parts, q) →
      m.Running q ∧ ∀ ref₁ a d₁ ref₂ b d₂, (ref₁, a) ∈ variants.zip parts → (ref₂, b) ∈ variants.zip parts →
        m.Variant ref₁ d₁ → m.Variant ref₂ d₂ → isNominal language.capabilities d₁ = true →
        isNominal language.capabilities d₂ = false → a.expression = b.expression →
          language = .python ∧ q.names.name? d₁.id = some "UUID") := by
  intro m
  refine ⟨after_running s language custom, fun p id name running held => ?_, ?_⟩
  · exact @shadow_iff m name (running_proper running held)
  · intro inline p q fuel variants parts running run
    exact variants_apart running inline run

def keyed (name : String) : Schema where
  metadata := sampleMetadata
  types :=
    [{ id := "type_0", name
       shape := .object [{ name := "id", type := ⟨"type_1", false⟩, required := true }] ["id"] none none },
     { id := "type_1", name := "Id", shape := .primitive .string (some { format := some "uuid" }) },
     { id := "type_2", name := "Either", shape := .union [⟨"type_0", false⟩, ⟨"type_1", false⟩] none none }]

def keyedParts (name : String) : Except Fault (List Mapped) × Progress :=
  let m := make (keyed name) .python []
  (([⟨"type_0", false⟩, ⟨"type_1", false⟩].mapM fun ref =>
    m.mapReference 3 ref { nested := true }).run.run m.toProgress)

theorem keyed_apart : "User" ∉ Language.python.capabilities.identifiers ∧
    ∃ a b q, keyedParts "User" = (.ok [a, b], q) ∧ a.expression ≠ b.expression := by
  have holds := names_shadow_iff (keyed "User") .python []
  have called : (make (keyed "User") .python []).names.name? "type_0" = some "User" := by decide +kernel
  constructor
  · intro listed
    have only := (holds.2.1 _ "type_0" "User" (holds.1 []) called).mp listed
    exact absurd only.2 (by decide)
  · have answered : (keyedParts "User").1.toOption.map (·.length) = some 2 := by decide +kernel
    have last : (keyedParts "User").2.names.name? "type_0" = some "User" := by decide +kernel
    rcases made : keyedParts "User" with ⟨_ | _ | ⟨a, _ | ⟨b, _ | _⟩⟩, q⟩
    all_goals simp [made, Except.toOption] at answered
    refine ⟨a, b, q, rfl, fun merged => ?_⟩
    rw [made] at last
    have further := (holds.2.2 rfl _ q 3 _ [a, b] (holds.1 []) made).2 ⟨"type_0", false⟩ a _ ⟨"type_1", false⟩ b _
      (by simp) (by simp) ⟨rfl, rfl, by simp⟩ ⟨rfl, rfl, by simp⟩ rfl rfl merged
    rw [last] at further
    exact absurd further.2 (by decide)

/-- The object is called what is imported for the texts, and the union is written as one of them. -/
theorem keyed_merged :
    let m := make (keyed "UUID") .python []
    m.names.name? "type_0" = some "UUID" ∧ "UUID" ∈ Language.python.capabilities.identifiers ∧
      (m.run (m.mapType ⟨"type_2", false⟩ {})).1.toOption.map (fun mapped => (mapped.expression, mapped.imports)) =
        some ("UUID", ["from uuid import UUID"]) := by
  decide +kernel

end Mapper

end ApiSchema
