import ApiSchema.Proofs.Target.Built
import ApiSchema.Proofs.Target.Trees

namespace ApiSchema

open TypeTree

def mapHead : Language → String
  | .javascript => "Object"
  | _ => "Record"

def mapTree (language : Language) (value : TypeTree) : TypeTree :=
  apply (apply (leaf (mapHead language)) (leaf "string")) value

def differing (parts : List (String × TypeTree)) : List TypeTree :=
  (parts.map (·.1)).eraseDups.filterMap fun text => parts.lookup text

def unionTree (c : Capabilities) (parts : List (String × TypeTree)) : TypeTree :=
  match differing parts with
  | [] => leaf c.anyType
  | several => joined several

namespace Mapper

def outlineShape (m : Mapper) (name : String → Except Fault String)
    (inner : TypeRef → Except Fault (String × TypeTree)) (d : TypeDefinition) : Except Fault TypeTree := do
  let c := m.capabilities
  match d.shape with
  | .primitive kind constraints => return leaf (primitive c kind constraints).expression
  | .object _ _ additional _ =>
    if d.isPlaceholder then return leaf c.anyType
    else if !isFreeForm d.shape then return leaf (← name d.id)
    else
      match additional with
      | some (.type ref) => return mapTree m.language (← inner ref).2
      | _ => return mapTree m.language (leaf c.anyType)
  | .array items .. => return array (← inner items).2
  | .union variants .. => return unionTree c (← variants.mapM inner)
  | .enum .. => return leaf (← name d.id)

def outlineDefinition (m : Mapper) (naming : String → String) (within : List String)
    (inner : TypeRef → Except Fault (String × TypeTree)) (d : TypeDefinition) : Except Fault TypeTree :=
  if within.contains d.id then (m.named naming d.id).map leaf
  else m.outlineShape (m.named naming) inner d

/-- The tree of the type behind a reference: where there may be no value, one of two. -/
def outline (m : Mapper) (naming : String → String) :
    Nat → List String → TypeRef → Usage → Except Fault TypeTree
  | 0, _, _, _ => .error (.misuse .depth)
  | fuel + 1, within, ref, usage => do
    let d ← m.definition ref.typeId
    let tree ← m.outlineDefinition naming within (fun ref => do
      let mapped ← m.rendered naming fuel (d.id :: within) ref { nested := true }
      return (mapped.expression, ← m.outline naming fuel (d.id :: within) ref { nested := true })) d
    return if ref.nullable || usage.nullable || !usage.required then union tree (leaf "undefined")
      else tree

structure Bracketed (language : Language) : Prop where
  sequence : language.capabilities.sequence = ⟨"", "item", "[]"⟩
  map : language.capabilities.map = ⟨mapHead language ++ "<string, ", "value", ">"⟩
  head : (mapHead language).toList ≠ [] ∧ (mapHead language).toList.all Text.isWordChar = true
  optional : language.capabilities.optionalStrategy = .wrap ∧
    language.capabilities.optional = ⟨"", "type", " | undefined"⟩
  union : language.capabilities.unionStrategy = .inline ∧
    language.capabilities.union = ⟨"", "variants", ""⟩ ∧ language.capabilities.unionSeparator = " | "
  boxed : language.capabilities.boxed = []
  fixed : ∀ text ∈ language.capabilities.fixed,
    text = "*" ∨ text.toList ≠ [] ∧ text.toList.all Text.isWordChar = true

theorem bracketed_of {language : Language}
    (listed : language = .typescript ∨ language = .javascript) : Bracketed language := by
  rcases listed with rfl | rfl
  all_goals exact ⟨rfl, rfl, by decide, ⟨rfl, rfl⟩, ⟨rfl, rfl, rfl⟩, rfl, by decide +kernel⟩

section Pieces

variable {language : Language} {ms : List TypeTree} {text : String}

theorem word_stands (filled : text.toList ≠ []) (plain : text.toList.all Text.isWordChar = true) :
    Stands text [leaf text] := by
  have tight := word_tight filled (List.all_eq_true.mp plain)
  rw [String.ofList_toList] at tight
  exact tight.stands

theorem name_stands (form : Text.IsTypeName text.toList) : Stands text [leaf text] :=
  word_stands form.filled (List.all_eq_true.mpr form.word)

theorem fixed_stands (bracketed : Bracketed language) (listed : text ∈ language.capabilities.fixed) :
    Stands text [leaf text] := by
  obtain rfl | ⟨filled, plain⟩ := bracketed.fixed text listed
  · exact Tight.stands star_tight
  · exact word_stands filled plain

theorem any_stands (bracketed : Bracketed language) :
    Stands language.capabilities.anyType [leaf language.capabilities.anyType] :=
  fixed_stands bracketed (by simp [Capabilities.fixed])

theorem occurs_single (mark : Char) (text : List Char) :
    Text.occurs [mark] text = true ↔ mark ∈ text := by
  induction text with
  | nil => simp [Text.occurs]
  | cons c rest ih => simp [Text.occurs, ih]

theorem sequence_stands (bracketed : Bracketed language) {item : Mapped}
    (stands : Stands item.expression ms) :
    Stands (sequenceOf language.capabilities item).expression [array (joined ms)] := by
  have bar : Text.trim " | ".toList = ['|'] := by decide +kernel
  have bare : "".isEmpty = true := by decide
  apply Tight.stands
  simp only [sequenceOf, bracketed.sequence, bracketed.union.2.2, bar, bare, Bool.true_and]
  by_cases inside : '|' ∈ item.expression.toList
  · rw [if_pos ((occurs_single '|' _).mpr inside)]
    have spelled : (Template.fill ⟨"", "item", "[]"⟩ ("(" ++ item.expression ++ ")")).toList =
        '(' :: (item.expression.toList ++ [')']) ++ ['[', ']'] := by simp [Template.fill]
    rw [spelled]
    exact array_tight (group_tight stands.reads)
  · rw [if_neg fun found => inside ((occurs_single '|' _).mp found)]
    have spelled : (Template.fill ⟨"", "item", "[]"⟩ item.expression).toList =
        item.expression.toList ++ ['[', ']'] := by simp [Template.fill]
    rw [spelled]
    exact array_tight (stands.tight inside)

theorem map_stands (bracketed : Bracketed language) {value : Mapped} {tree : TypeTree}
    (stands : Stands value.expression tree.members) :
    Stands (mapOf language.capabilities value).expression (mapTree language tree).members := by
  apply Tight.stands
  have spelled : (mapOf language.capabilities value).expression.toList =
      (mapHead language).toList ++ ("<string, ".toList ++ (value.expression.toList ++ ['>'])) := by
    simp [mapOf, bracketed.map, Template.fill]
  have tight := map_tight bracketed.head.1 (List.all_eq_true.mp bracketed.head.2) stands.reads
  rw [spelled]
  rw [String.ofList_toList] at tight
  exact tight

theorem used_stands (bracketed : Bracketed language) {bare : Mapped} {tree : TypeTree} (nullable : Bool)
    (usage : Usage) (stands : Stands bare.expression tree.members) :
    Stands (used language.capabilities nullable usage bare).expression
      (if nullable || usage.nullable || !usage.required then union tree (leaf "undefined")
        else tree).members := by
  have same : box language.capabilities bare = bare := by simp [box, bracketed.boxed]
  unfold used
  split
  · unfold optional
    simp only [bracketed.optional, same]
    have spelled : (Template.fill ⟨"", "type", " | undefined"⟩ bare.expression).toList =
        bare.expression.toList ++ (" | ".toList ++ "undefined".toList) := by simp [Template.fill]
    constructor
    · rw [spelled]
      exact union_reads stands.reads (word_stands (by decide) (by decide)).reads
    · intro none
      exact absurd (by simp [spelled]) none
  · simp only [same, ite_self]
    exact stands

theorem lookup_part {parts : List (String × TypeTree)} (each : ∀ part ∈ parts, Stands part.1 part.2.members)
    (listed : text ∈ parts.map (·.1)) :
    ∃ tree, parts.lookup text = some tree ∧ Stands text tree.members := by
  cases found : parts.lookup text with
  | none =>
      obtain ⟨part, member, rfl⟩ := List.mem_map.mp listed
      have apart := List.lookup_eq_none_iff.mp found part member
      simp at apart
  | some tree =>
      obtain ⟨front, back, same, _⟩ := List.lookup_eq_some_iff.mp found
      exact ⟨tree, rfl, each (text, tree) (by simp [same])⟩

-- What each text is looked up as, it is read as; the bar between two shows that they are not one type.
theorem several_stands {find : String → Option TypeTree} {first second : String} {more : List String}
    (known : ∀ text ∈ first :: second :: more, ∃ tree, find text = some tree ∧ Stands text tree.members) :
    Stands (" | ".intercalate (first :: second :: more))
      (joined ((first :: second :: more).filterMap find)).members := by
  have filled : (first :: second :: more).filterMap find ≠ [] := by
    obtain ⟨tree, found, _⟩ := known first (by simp)
    simp [found]
  have parts (texts : List String) : (texts.filterMap find).flatMap members =
      texts.flatMap fun text => ((find text).map members).getD [] := by
    induction texts with
    | nil => rfl
    | cons text rest ih => cases same : find text <;> simp [same, ih]
  constructor
  · rw [joined_members filled, parts]
    refine union_stands (by simp) fun text listed => ?_
    obtain ⟨tree, found, stands⟩ := known text listed
    simpa [found] using stands
  · intro none
    rw [String.intercalate_cons_cons] at none
    exact absurd (by simp) none

theorem inline_stands (bracketed : Bracketed language) {variants : List Mapped}
    {parts : List (String × TypeTree)} (same : variants.map (·.expression) = parts.map (·.1))
    (each : ∀ part ∈ parts, Stands part.1 part.2.members) :
    Stands (inlineUnion language.capabilities variants).expression
      (unionTree language.capabilities parts).members := by
  have known (text : String) (listed : text ∈ (parts.map (·.1)).eraseDups) :=
    lookup_part each (List.mem_eraseDups.mp listed)
  unfold inlineUnion unionTree differing
  simp only [same]
  generalize (parts.map (·.1)).eraseDups = texts at known
  match texts with
  | [] => exact any_stands bracketed
  | [only] =>
      obtain ⟨tree, found, stands⟩ := known only (by simp)
      simpa [found, joined] using stands
  | first :: second :: more =>
      have several := several_stands known
      obtain ⟨tree, found, _⟩ := known first (by simp)
      simp only [bracketed.union, Template.fill, String.empty_append, String.append_empty,
        List.filterMap_cons, found] at several ⊢
      exact several

end Pieces

section Outlines

variable {m : Mapper} {naming : String → String} {within : List String} {d : TypeDefinition}
  {mapped : Mapped} {inner : TypeRef → Except Fault Mapped}
  {outlined : TypeRef → Except Fault (String × TypeTree)}

def Outlined (inner : TypeRef → Except Fault Mapped)
    (outlined : TypeRef → Except Fault (String × TypeTree)) : Prop :=
  ∀ ref part, inner ref = .ok part →
    ∃ tree, outlined ref = .ok (part.expression, tree) ∧ Stands part.expression tree.members

theorem each_outlined (parts : Outlined inner outlined) {refs : List TypeRef} {made : List Mapped}
    (ok : refs.mapM inner = .ok made) :
    ∃ trees, refs.mapM outlined = .ok trees ∧ made.map (·.expression) = trees.map (·.1) ∧
      ∀ part ∈ trees, Stands part.1 part.2.members := by
  have pairs := each_made ok
  clear ok
  induction pairs with
  | nil => exact ⟨[], rfl, rfl, by simp⟩
  | @cons ref part refs made front _ ih =>
      obtain ⟨tree, found, stands⟩ := parts ref part front
      obtain ⟨trees, rest, same, each⟩ := ih
      refine ⟨(part.expression, tree) :: trees, ?_, by simp [same], ?_⟩
      · rw [List.mapM_cons, found, rest]
        rfl
      · exact List.forall_mem_cons.mpr ⟨stands, each⟩

theorem shape_outlined (bracketed : Bracketed m.language)
    (names : ∀ id, Text.IsTypeName (naming id).toList) (parts : Outlined inner outlined)
    (ok : m.mapShape (m.named naming) inner d = .ok mapped) :
    ∃ tree, m.outlineShape (m.named naming) outlined d = .ok tree ∧
      Stands mapped.expression tree.members := by
  have own {name : String} (named : m.named naming d.id = .ok name) : Stands name [leaf name] :=
    name_stands (named_ok named ▸ names d.id)
  unfold mapShape at ok
  unfold outlineShape
  cases shape : d.shape with
  | primitive kind constraints =>
      simp only [shape] at ok
      cases ok
      exact ⟨_, rfl, fixed_stands bracketed (primitive_fixed _ _ _)⟩
  | «enum» values kind =>
      simp only [shape] at ok
      obtain ⟨name, named, ok⟩ := bound_ok ok
      rw [of_except_same] at ok
      refine ⟨leaf name, by simp only [named]; rfl, ?_⟩
      rw [enum_shown ok]
      exact own named
  | array items =>
      simp only [shape] at ok
      obtain ⟨item, made, rfl⟩ := map_ok ok
      obtain ⟨tree, found, stands⟩ := parts _ _ made
      exact ⟨array tree, by simp only [found]; rfl, sequence_stands bracketed stands⟩
  | object properties required additional =>
      simp only [shape] at ok ⊢
      -- A placeholder takes everything; an object with fields has a name; any other is a map.
      by_cases stub : d.isPlaceholder
      · simp only [if_pos stub] at ok ⊢
        cases ok
        exact ⟨_, rfl, any_stands bracketed⟩
      · simp only [if_neg stub] at ok ⊢
        split at ok
        next fields =>
          rw [if_pos fields]
          obtain ⟨name, named, rfl⟩ := map_ok ok
          exact ⟨leaf name, by simp only [named]; rfl, own named⟩
        next free =>
          rw [if_neg free]
          have any : Stands (anyOf m.capabilities).expression (leaf m.capabilities.anyType).members :=
            any_stands bracketed
          rcases additional with _ | ref | allowed
          · cases ok
            exact ⟨_, rfl, map_stands bracketed any⟩
          · obtain ⟨value, made, rfl⟩ := map_ok ok
            obtain ⟨tree, found, stands⟩ := parts _ _ made
            exact ⟨_, by simp only [found]; rfl, map_stands bracketed stands⟩
          · cases ok
            exact ⟨_, rfl, map_stands bracketed any⟩
  | union variants discriminator =>
      simp only [shape] at ok ⊢
      obtain ⟨made, all, ok⟩ := bound_ok ok
      obtain ⟨trees, found, same, each⟩ := each_outlined parts all
      have inline : m.capabilities.unionStrategy = .inline := bracketed.union.1
      rw [if_pos inline] at ok
      cases ok
      exact ⟨_, by simp only [found]; rfl, inline_stands bracketed same each⟩

-- Induction on the fuel, of the mapping and of the outline at once.
theorem rendered_outlined (bracketed : Bracketed m.language) (plain : m.custom = [])
    (names : ∀ id, Text.IsTypeName (naming id).toList) {fuel : Nat} {ref : TypeRef} {usage : Usage}
    (ok : m.rendered naming fuel within ref usage = .ok mapped) :
    ∃ tree, m.outline naming fuel within ref usage = .ok tree ∧
      Stands mapped.expression tree.members := by
  induction fuel generalizing within ref usage mapped with
  | zero => cases ok
  | succ fuel ih =>
      obtain ⟨d, found, ok⟩ := bound_ok ok
      obtain ⟨bare, made, rfl⟩ := map_ok ok
      have free : m.customFor d = none := by simp [customFor, plain]
      suffices inside : ∃ tree, m.outlineDefinition naming within (fun ref => do
            let mapped ← m.rendered naming fuel (d.id :: within) ref { nested := true }
            return (mapped.expression, ← m.outline naming fuel (d.id :: within) ref { nested := true })) d =
          .ok tree ∧ Stands bare.expression tree.members by
        obtain ⟨tree, done, stands⟩ := inside
        refine ⟨_, ?_, used_stands bracketed ref.nullable usage stands⟩
        simp only [outline, found]
        change m.outlineDefinition _ _ _ _ >>= _ = _
        rw [done]
        rfl
      simp only [renderedDefinition, free] at made
      unfold outlineDefinition
      split at made
      next around =>
        obtain ⟨name, named, rfl⟩ := map_ok made
        rw [if_pos around, named]
        exact ⟨leaf name, rfl, name_stands (named_ok named ▸ names d.id)⟩
      next apart =>
        rw [if_neg apart]
        refine shape_outlined bracketed names (fun ref part ok => ?_) made
        obtain ⟨tree, done, stands⟩ := ih ok
        refine ⟨tree, ?_, stands⟩
        simp only [ok, done]
        rfl

end Outlines

/-- Whatever was asked before, an answer in TypeScript or JavaScript is read as the tree that the types
give under the names known by then, up to the grouping of nested unions. -/
theorem expressions_read_back (s : Schema) {language : Language}
    (listed : language = .typescript ∨ language = .javascript) (history : List Request)
    (ref : TypeRef) (usage : Usage) :
    let made := make s language []
    let m := made.after history
    let run := m.run (m.mapType ref usage)
    ∀ mapped, run.1 = .ok mapped → ∃ tree found,
      made.outline run.2.names.called made.depth [] ref usage = .ok tree ∧
        TypeTree.read mapped.expression = some found ∧ found.Same tree := by
  intro made m run mapped answered
  have ok := answer_rendered answered
  have names := names_called s language history ref usage
  obtain ⟨tree, outlined, stands⟩ := rendered_outlined (bracketed_of listed) rfl names ok
  obtain ⟨found, read, same⟩ := read_reads stands.reads
  exact ⟨tree, found, outlined, read, same⟩

theorem table_reads_back :
    let made := make table .typescript []
    let run := made.run (made.mapType ⟨"type_0", false⟩ {})
    ∃ mapped tree found, run.1 = .ok mapped ∧
      made.outline run.2.names.called made.depth [] ⟨"type_0", false⟩ {} = .ok tree ∧
        TypeTree.read mapped.expression = some found ∧ found.Same tree := by
  intro made run
  obtain ⟨mapped, answered⟩ := tabled_answers .typescript (table.types[0]) (by simp [table])
  obtain ⟨tree, found, outlined, read, same⟩ :=
    expressions_read_back table (.inl rfl) [] ⟨"type_0", false⟩ {} mapped answered
  exact ⟨mapped, tree, found, answered, outlined, read, same⟩

example : (tabled .typescript "type_0").toOption.map (·.expression) =
      some "Record<string, (number | Row | undefined)[] | undefined>" ∧
    TypeTree.read "(number | Row | undefined)[] | undefined" =
      some (union (array (union (union (leaf "number") (leaf "Row")) (leaf "undefined")))
        (leaf "undefined")) := by
  decide +kernel

end Mapper

end ApiSchema
