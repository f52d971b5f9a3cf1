import ApiSchema.Proofs.Target.Entries

/-!
A catalog declares the names that its expressions use.

An expression is a function of registered names. A registered type is in the list of types under
the name it has at the end, unless it has no declaration in any language: an array or a free map that
was met inside itself, and an object that has no fields and admits none.
-/

namespace ApiSchema

namespace Catalog

def declared (v : Value) : List (String × String) := (itemsAt v "types").filterMap entryName

def signature (endpoint : Value) : List Value :=
  valuesAt endpoint "parameters" ++ valuesAt endpoint "responses" ++
    (endpoint.get? "requestBody").toList

def described (v : Value) : List Value :=
  (itemsAt v "types").flatMap (valuesAt · "fields") ++ (itemsAt v "endpoints").flatMap signature

def expressions (v : Value) : List String := (described v).filterMap (textAt · "expression")

def Undeclared (s : Schema) (t : TypeDefinition) : Prop :=
  (∃ required discriminator, t.shape = .object [] required (some (.allowed false)) discriminator) ∨
    s.Recurs t.id ∧ ((∃ items least most unique, t.shape = .array items least most unique) ∨
      ∃ required additional discriminator, t.shape = .object [] required additional discriminator)

end Catalog

namespace Mapper

/-- What the mapping of a reference of the schema comes to, for every naming of all types that knows
the names given so far. -/
def Written (m : Mapper) (names : Names) (e : String) : Prop :=
  ∃ site ∈ m.schema.sites, ∃ usage, ∀ naming, names.Agrees naming →
    ∃ mapped, m.rendered naming m.depth [] site.ref usage = .ok mapped ∧
      mapped.expression = e

def Shown (m : Mapper) (names : Names) (v : Value) : Prop :=
  ∃ e, textAt v "expression" = some e ∧ m.Written names e

end Mapper

namespace Catalog

open Mapper

variable {m : Mapper} {names : Names}

theorem field_sited {t : TypeDefinition} (listed : t ∈ m.schema.types) {slots : List Slot}
    (shaped : fieldSlots t.shape = some slots) {slot : Slot} (member : slot ∈ slots) : Sited m slot := by
  unfold fieldSlots at shaped
  split at shaped
  next same =>
    cases shaped
    obtain ⟨p, held, rfl⟩ := List.mem_map.mp member
    exact property_site listed same held
  · cases shaped

theorem parameter_sited {e : Endpoint} (listed : e ∈ m.schema.endpoints) {slot : Slot}
    (member : slot ∈ parameterSlots e) : Sited m slot := by
  obtain ⟨p, held, rfl⟩ := List.mem_map.mp member
  exact parameter_site listed held

theorem response_sited {e : Endpoint} (listed : e ∈ m.schema.endpoints) {slot : Slot}
    (member : slot ∈ responseSlots e) : Sited m slot := by
  obtain ⟨r, held, typed⟩ := List.mem_flatMap.mp member
  obtain ⟨ref, same, rfl⟩ := Option.map_eq_some_iff.mp (Option.mem_toList.mp typed)
  exact typed_response_site listed held same

theorem body_sited {e : Endpoint} (listed : e ∈ m.schema.endpoints) {slot : Slot}
    (held : bodySlot? e = some slot) : Sited m slot := by
  obtain ⟨body, there, rfl⟩ := Option.map_eq_some_iff.mp held
  exact body_site listed there

theorem expression_described (mapped : Mapped) :
    textAt (describe mapped) "expression" = some mapped.expression := rfl

theorem answers_shown {slot : Slot} (sited : Sited m slot) {mapped : Mapped}
    (answers : Answers m names slot mapped) : m.Shown names (describe mapped) := by
  obtain ⟨site, listed, at_slot⟩ := sited
  refine ⟨mapped.expression, expression_described mapped, site, listed, slot.usage, fun naming agrees => ?_⟩
  exact ⟨mapped, at_slot ▸ answers naming agrees, rfl⟩

theorem tabled_shown {v part table : Value} {name : String} {slots : List Slot}
    (sited : ∀ slot ∈ slots, Sited m slot) (held : v.get? name = some table)
    (tabled : Tabled m names slots table) (member : part ∈ valuesAt v name) : m.Shown names part := by
  obtain ⟨entries, entered, rfl⟩ := tabled
  obtain ⟨entry, there, rfl⟩ := merged_member held member
  obtain ⟨slot, listed, mapped, answers, rfl⟩ := forall_right entered there
  exact answers_shown (sited slot listed) answers

theorem fields_shown {t : TypeDefinition} (listed : t ∈ m.schema.types) {entry part : Value}
    (written : TypeWritten m names t entry) (member : part ∈ valuesAt entry "fields") :
    m.Shown names part := by
  have fields := written.fields
  cases held : entry.get? "fields" with
  | none => simp [valuesAt, held] at member
  | some table =>
      rw [held] at fields
      cases shaped : fieldSlots t.shape with
      | none => rw [shaped] at fields; cases fields
      | some slots =>
          rw [shaped] at fields
          cases fields with
          | some tabled => exact tabled_shown (fun _ => field_sited listed shaped) held tabled member

theorem signature_shown {e : Endpoint} (listed : e ∈ m.schema.endpoints) {entry part : Value}
    (written : EndpointWritten m names e entry) (member : part ∈ signature entry) :
    m.Shown names part := by
  obtain ⟨_, held, tabled⟩ := written.parameters
  obtain ⟨_, held', tabled'⟩ := written.responses
  obtain front | last := List.mem_append.mp member
  · obtain first | second := List.mem_append.mp front
    · exact tabled_shown (fun _ => parameter_sited listed) held tabled first
    · exact tabled_shown (fun _ => response_sited listed) held' tabled' second
  · have body := written.body
    rw [Option.mem_toList.mp last] at body
    cases given : bodySlot? e with
    | none => rw [given] at body; cases body
    | some slot =>
        rw [given] at body
        cases body with
        | some told =>
            obtain ⟨mapped, answers, rfl⟩ := told
            exact answers_shown (body_sited listed given) answers

structure Lists (m : Mapper) (names : Names) (v : Value) : Prop where
  declares : ∀ t ∈ m.schema.types, isListed t = true → ∃ name, names.name? t.id = some name ∧
    (t.id, name) ∈ declared v
  shows : ∀ part ∈ described v, m.Shown names part

theorem lists_of_written {v : Value} (written : ContentWritten m names v) : Lists m names v := by
  refine ⟨fun t listed shown => ?_, fun part member => ?_⟩
  · obtain ⟨entry, there, told⟩ := forall_left written.types (List.mem_filter.mpr ⟨listed, shown⟩)
    obtain ⟨name, named, read⟩ := told.named
    exact ⟨name, named, List.mem_filterMap.mpr ⟨entry, there, read⟩⟩
  · obtain front | back := List.mem_append.mp member
    · obtain ⟨entry, there, held⟩ := List.mem_flatMap.mp front
      obtain ⟨t, listed, told⟩ := forall_right written.types there
      exact fields_shown (List.mem_filter.mp listed).1 told held
    · obtain ⟨entry, there, held⟩ := List.mem_flatMap.mp back
      obtain ⟨e, listed, told⟩ := forall_right written.endpoints there
      exact signature_shown listed told held

theorem undeclared_of_hidden {t : TypeDefinition} (why : m.Nameable t) (hidden : isListed t = false) :
    Undeclared m.schema t := by
  obtain nominal | listed | ⟨found, recurs⟩ := why
  · cases shaped : t.shape with
    | object properties required additional discriminator =>
        cases properties with
        | cons p rest => simp_all [isNominal, isListed]
        | nil =>
            have bound : t.isPlaceholder = false ∧ isFreeForm t.shape = false := by
              simpa [isNominal, shaped] using nominal
            have only : additional = some (.allowed false) := by
              simpa [shaped, isFreeForm] using bound.2
            exact .inl ⟨required, discriminator, only ▸ shaped⟩
    | primitive | array => simp [isNominal, shaped] at nominal
    | «enum» | union => simp [isListed, shaped] at hidden
  · rw [hidden] at listed
    cases listed
  · -- The first step away from the type follows a reference of its shape.
    obtain ⟨id, ⟨d, found', ref, member, _⟩, _⟩ := Relation.TransGen.head'_iff.mp recurs
    cases found.symm.trans found'
    cases shaped : t.shape with
    | array items least most unique =>
        exact .inr ⟨recurs, .inl ⟨items, least, most, unique, shaped⟩⟩
    | object properties required additional discriminator =>
        cases properties with
        | cons p rest => simp [TypeDefinition.followed, shaped, isFreeForm] at member
        | nil => exact .inr ⟨recurs, .inr ⟨required, additional, discriminator, shaped⟩⟩
    | primitive => simp [TypeDefinition.followed, shaped, Shape.inward] at member
    | «enum» | union => simp [isListed, shaped] at hidden

structure Accounts (m : Mapper) (options : OutputOptions) (v : Value) (later : Mapper) : Prop where
  file : file m options = (jsonText v).map (⟨"types." ++ m.language.name ++ ".json", ·, false⟩)
  uses : ∀ e ∈ expressions v, m.Written later.names e
  declares : ∀ id name, later.names.name? id = some name →
    ∃ t ∈ m.schema.types, t.id = id ∧ ((id, name) ∈ declared v ∨ Undeclared m.schema t)

/-- The expressions of a catalog are made with registered names, and every registered name is that of
an entry in its list of types, unless it is the name of an array or a free map met inside itself, or of
an object without fields that admits none. -/
theorem catalog_accounts (s : Schema) (language : Language) (options : OutputOptions) (v : Value)
    (later : Mapper)
    (ran : (make s language []).run (content (make s language []) options) = (.ok v, later)) :
    Accounts (make s language []) options v later := by
  have filed := file_text ran
  obtain ⟨p, rfl, _, reasoned, written⟩ := content_written s language [] options ran
  obtain ⟨listed, shown⟩ := lists_of_written written
  refine ⟨filed, fun e member => ?_, fun id name held => ?_⟩
  · obtain ⟨part, there, read⟩ := List.mem_filterMap.mp member
    obtain ⟨e', read', written⟩ := shown part there
    cases read.symm.trans read'
    exact written
  · obtain ⟨t, there, rfl, why⟩ := reasoned _ (Names.lookup_member held)
    refine ⟨t, there, rfl, ?_⟩
    by_cases listing : isListed t = true
    · obtain ⟨name', named, entered⟩ := listed t there listing
      cases held.symm.trans named
      exact .inl entered
    · exact .inr (undeclared_of_hidden why (by simpa using listing))

def holder : Schema where
  metadata := sampleMetadata
  types :=
    [⟨"type_0", "Holder", none, none, none, none, .object
        [{ name := "rows", type := ⟨"type_1", false⟩, required := true },
          { name := "tree", type := ⟨"type_2", false⟩, required := true },
          { name := "none", type := ⟨"type_3", false⟩, required := true }]
        ["rows", "tree", "none"] none none⟩,
      endless "type_1",
      { id := "type_2", name := "Tree", shape := .object [] [] (some (.type ⟨"type_2", false⟩)) none },
      { id := "type_3", name := "Empty", shape := .object [] [] (some (.allowed false)) none }]

theorem holder_accounts :
    let m := make holder .go []
    let options : OutputOptions := { outputDir := ".", packageName := "sdk" }
    ∃ v later text, m.run (content m options) = (.ok v, later) ∧ jsonText v = .ok text ∧
      Accounts m options v later := by
  intro m options
  obtain ⟨v, later, text, ran, spelled⟩ := text_made m options (by decide +kernel)
  exact ⟨v, later, text, ran, spelled, catalog_accounts holder .go options v later ran⟩

/-- Three of the four names in these expressions are missing in the list of types. -/
theorem holder_undeclared :
    let m := make holder .python []
    let outcome := m.run (content m { outputDir := ".", packageName := "sdk" })
    (holder.types.map (·.id)).Nodup ∧
      (∀ site ∈ holder.sites, site.ref.typeId ∈ holder.types.map (·.id)) ∧
      outcome.1.toOption.map expressions = some ["List[Rec]", "Dict[str, Tree]", "Empty"] ∧
      outcome.2.names.given = [("type_0", "Holder"), ("type_3", "Empty"), ("type_1", "Rec"),
        ("type_2", "Tree")] ∧
      outcome.1.toOption.map declared = some [("type_0", "Holder")] := by
  decide +kernel

end Catalog

end ApiSchema
