import ApiSchema.Proofs.Schema.Validation
import ApiSchema.Proofs.Target.Built

/-!
Imports of an answer: each once, and that of a container exactly if the expression has the container
in it.

A container is told by how it begins, a word and a bracket. An expression is put together of pieces
that keep such a beginning whole: what stands before a hole ends in a mark, and what stands after one
begins with a mark that no beginning has. So it can be seen from the pieces what begins in the whole.
-/

namespace ApiSchema

structure Container where
  line : String
  openings : List String

def Language.containers : Language → List Container
  | .python =>
    [⟨"from typing import List", ["List["]⟩, ⟨"from typing import Dict", ["Dict["]⟩,
      ⟨"from typing import Optional", ["Optional["]⟩, ⟨"from typing import Union", ["Union["]⟩]
  | .java =>
    [⟨"import java.util.List;", ["List<"]⟩, ⟨"import java.util.Map;", ["Map<"]⟩,
      ⟨"import java.util.Optional;", ["Optional<"]⟩]
  | .csharp => [⟨"using System.Collections.Generic;", ["List<", "Dictionary<"]⟩]
  | .rust => [⟨"use std::collections::HashMap;", ["HashMap<"]⟩]
  | .typescript | .javascript | .go => []

namespace Container

variable {k : Container} {c : Capabilities}

def Within (k : Container) (text : List Char) : Prop :=
  ∃ opening ∈ k.openings, opening.toList <:+: text

instance (text : List Char) : Decidable (k.Within text) :=
  inferInstanceAs (Decidable (∃ opening ∈ k.openings, opening.toList <:+: text))

def Shut (k : Container) (piece : List Char) : Prop :=
  ∀ c ∈ piece.head?, ∀ opening ∈ k.openings, c ∉ opening.toList

def Complete (piece : List Char) : Prop := ∀ c ∈ piece.getLast?, Text.isWordChar c = false

-- Only the one character is looked at, where a statement about all characters may be decided by going
-- through all that there are.
instance (piece : List Char) : Decidable (k.Shut piece) :=
  decidable_of_iff (piece.head?.all (fun c => k.openings.all fun opening => decide (c ∉ opening.toList)) = true)
    (by simp [Shut, Option.all_eq_true])

instance (piece : List Char) : Decidable (Complete piece) :=
  decidable_of_iff (piece.getLast?.all (fun c => !Text.isWordChar c) = true)
    (by simp [Complete, Option.all_eq_true])

structure Frames (k : Container) (t : Template) (imports : List String) : Prop where
  before : Complete t.before.toList
  after : k.Shut t.after.toList ∧ ¬ k.Within t.after.toList
  imports : k.line ∈ imports ↔ k.Within t.before.toList

instance (t : Template) (imports : List String) : Decidable (k.Frames t imports) :=
  decidable_of_iff (Complete t.before.toList ∧ (k.Shut t.after.toList ∧ ¬ k.Within t.after.toList) ∧
      (k.line ∈ imports ↔ k.Within t.before.toList))
    ⟨fun ⟨before, after, same⟩ => ⟨before, after, same⟩, fun f => ⟨f.before, f.after, f.imports⟩⟩

structure Fits (c : Capabilities) (k : Container) : Prop where
  openings : ∀ opening ∈ k.openings, opening.toList.dropLast.all Text.isWordChar = true ∧
    opening.toList.all Text.isWordChar = false
  fixed : ∀ text ∈ c.fixed ++ c.boxed.map (·.1), ¬ k.Within text.toList
  lines : k.line ∉ c.anyImports ++ c.formats.flatMap (·.2.2)
  sequence : c.sequence.before.isEmpty = false ∧ k.Frames c.sequence c.sequenceImports
  map : k.Frames c.map c.mapImports
  optional : c.optionalStrategy = .wrap ∧ k.Frames c.optional c.optionalImports
  union : k.Frames c.union c.unionImports
  separator : c.unionSeparator.toList ≠ [] ∧ k.Shut c.unionSeparator.toList ∧
    Complete c.unionSeparator.toList ∧ ¬ k.Within c.unionSeparator.toList

instance : Decidable (k.Fits c) :=
  decidable_of_iff ((∀ opening ∈ k.openings, opening.toList.dropLast.all Text.isWordChar = true ∧
        opening.toList.all Text.isWordChar = false) ∧
      (∀ text ∈ c.fixed ++ c.boxed.map (·.1), ¬ k.Within text.toList) ∧
      k.line ∉ c.anyImports ++ c.formats.flatMap (·.2.2) ∧
      (c.sequence.before.isEmpty = false ∧ k.Frames c.sequence c.sequenceImports) ∧
      k.Frames c.map c.mapImports ∧
      (c.optionalStrategy = .wrap ∧ k.Frames c.optional c.optionalImports) ∧
      k.Frames c.union c.unionImports ∧ c.unionSeparator.toList ≠ [] ∧
      k.Shut c.unionSeparator.toList ∧ Complete c.unionSeparator.toList ∧
      ¬ k.Within c.unionSeparator.toList)
    ⟨fun ⟨openings, fixed, lines, sequence, map, optional, union, separator⟩ =>
        ⟨openings, fixed, lines, sequence, map, optional, union, separator⟩,
      fun f => ⟨f.openings, f.fixed, f.lines, f.sequence, f.map, f.optional, f.union, f.separator⟩⟩

theorem containers_fit (language : Language) :
    ∀ k ∈ language.containers, k.Fits language.capabilities := by
  cases language <;> decide +kernel

section Pieces

variable {front back : List Char}

theorem within_parts (k : Container) (either : k.Within front ∨ k.Within back) :
    k.Within (front ++ back) := by
  rcases either with ⟨opening, listed, inside⟩ | ⟨opening, listed, inside⟩
  · exact ⟨opening, listed, inside.trans (List.prefix_append _ _).isInfix⟩
  · exact ⟨opening, listed, inside.trans (List.suffix_append _ _).isInfix⟩

theorem within_shut (shut : k.Shut back) : k.Within (front ++ back) ↔ k.Within front ∨ k.Within back := by
  refine ⟨?_, within_parts k⟩
  rintro ⟨opening, listed, inside⟩
  obtain first | second | ⟨one, two, same, behind, ahead⟩ := List.infix_append_iff.mp inside
  · exact .inl ⟨opening, listed, first⟩
  · exact .inr ⟨opening, listed, second⟩
  · cases two with
    | nil =>
        rw [List.append_nil] at same
        exact .inl ⟨opening, listed, same ▸ behind.isInfix⟩
    | cons c rest =>
        -- What follows would begin with a character of the opening.
        have head : c ∈ back.head? := by
          obtain ⟨more, spelled⟩ := ahead
          simp [← spelled]
        exact absurd (by simp [same]) (shut c head opening listed)

theorem within_complete (fits : k.Fits c) (complete : Complete front) :
    k.Within (front ++ back) ↔ k.Within front ∨ k.Within back := by
  refine ⟨?_, within_parts k⟩
  rintro ⟨opening, listed, inside⟩
  obtain first | second | ⟨one, two, same, behind, ahead⟩ := List.infix_append_iff.mp inside
  · exact .inl ⟨opening, listed, first⟩
  · exact .inr ⟨opening, listed, second⟩
  · rcases List.eq_nil_or_concat one with rfl | ⟨start, c, rfl⟩
    · exact .inr ⟨opening, listed, same ▸ ahead.isInfix⟩
    · cases two with
      | nil =>
          rw [List.append_nil] at same
          exact .inl ⟨opening, listed, same ▸ behind.isInfix⟩
      | cons d rest =>
          -- An opening has its mark at the end, and here it would have one before.
          have last : c ∈ front.getLast? := by
            obtain ⟨more, spelled⟩ := behind
            simp [← spelled]
          have early : c ∈ opening.toList.dropLast := by
            rw [same, List.dropLast_append_of_ne_nil (by simp)]
            simp
          have word := List.all_eq_true.mp (fits.openings opening listed).1 c early
          exact absurd word (by simp [complete c last])

theorem within_fill (fits : k.Fits c) {t : Template} {imports : List String}
    (frames : k.Frames t imports) (inner : String) :
    k.Within (t.fill inner).toList ↔ k.Within t.before.toList ∨ k.Within inner.toList := by
  rw [Template.fill, String.toList_append, within_shut frames.after.1, String.toList_append,
    within_complete fits frames.before]
  simp only [frames.after.2, or_false]

theorem within_intercalate (fits : k.Fits c) {texts : List String} (filled : texts ≠ []) :
    k.Within (c.unionSeparator.intercalate texts).toList ↔ ∃ text ∈ texts, k.Within text.toList := by
  obtain ⟨some, shut, complete, clear⟩ := fits.separator
  induction texts with
  | nil => exact absurd rfl filled
  | cons first rest ih =>
      cases rest with
      | nil => simp
      | cons second more =>
          have apart : k.Shut (c.unionSeparator.toList ++
              (c.unionSeparator.intercalate (second :: more)).toList) := by
            rwa [Shut, List.head?_append_of_ne_nil _ some]
          rw [String.intercalate_cons_cons, String.append_assoc, String.toList_append,
            String.toList_append, within_shut apart, within_complete fits complete, ih (by simp)]
          simp [clear]

theorem word_without (fits : k.Fits c) {word : List Char}
    (plain : ∀ c ∈ word, Text.isWordChar c = true) : ¬ k.Within word := by
  rintro ⟨opening, listed, inside⟩
  have all : opening.toList.all Text.isWordChar = true :=
    List.all_eq_true.mpr fun c member => plain c (inside.subset member)
  exact absurd all (by simp [(fits.openings opening listed).2])

end Pieces

end Container

namespace Mapper

variable {k : Container} {c : Capabilities} {mapped : Mapped}

theorem merged_member {line : String} {groups : List (List String)} :
    line ∈ mergeImports groups ↔ ∃ group ∈ groups, line ∈ group := by
  simp [mergeImports, List.mem_eraseDups]

/-- What is imported is exact for a container: its line is there if and only if it begins somewhere
in the texts. -/
def Told (k : Container) (imports texts : List String) : Prop :=
  k.line ∈ imports ↔ ∃ text ∈ texts, k.Within text.toList

structure Exact (language : Language) (mapped : Mapped) : Prop where
  once : mapped.imports.Nodup
  variantsOnce : mapped.variantImports.Nodup
  containers : ∀ k ∈ language.containers, Told k mapped.imports [mapped.expression]
  variants : ∀ k ∈ language.containers, Told k mapped.variantImports mapped.variants

theorem told_one {imports : List String} {text : String} :
    Told k imports [text] ↔ (k.line ∈ imports ↔ k.Within text.toList) := by
  simp [Told]

theorem frame_told (fits : k.Fits c) {t : Template} {lines : List String}
    (frames : k.Frames t lines) {imports : List String} {inner : String}
    (told : k.line ∈ imports ↔ k.Within inner.toList) :
    Told k (mergeImports [imports, lines]) [t.fill inner] := by
  rw [told_one, merged_member, Container.within_fill fits frames]
  simp only [List.mem_cons, List.not_mem_nil, or_false, exists_eq_or_imp, exists_eq_left, told,
    frames.imports]
  exact or_comm

theorem fixed_told (fits : k.Fits c) {text : String} (listed : text ∈ c.fixed) {imports : List String}
    (absent : k.line ∉ imports) : Told k imports [text] := by
  rw [told_one]
  exact iff_of_false absent (fits.fixed text (List.mem_append_left _ listed))

theorem name_told (fits : k.Fits c) {name : String} (form : Text.IsTypeName name.toList) :
    Told k [] [name] := by
  rw [told_one]
  exact iff_of_false (by simp) (Container.word_without fits form.word)

theorem primitive_imports (c : Capabilities) (kind : PrimitiveKind) (constraints : Option Constraints) :
    (primitive c kind constraints).imports = [] ∨
      ∃ entry ∈ c.formats, (primitive c kind constraints).imports = entry.2.2 := by
  unfold primitive
  simp only []
  split
  next expression imports found =>
    split at found
    · obtain ⟨format, -, entry⟩ := Option.bind_eq_some_iff.mp found
      obtain ⟨front, back, same, _⟩ := List.lookup_eq_some_iff.mp entry
      exact .inr ⟨(format, expression, imports), by simp [same], rfl⟩
    · cases found
  next => exact .inl rfl

theorem primitive_told (fits : k.Fits c) (kind : PrimitiveKind) (constraints : Option Constraints) :
    Told k (primitive c kind constraints).imports [(primitive c kind constraints).expression] := by
  refine fixed_told fits (primitive_fixed c kind constraints) fun member => ?_
  obtain none | ⟨entry, listed, same⟩ := primitive_imports c kind constraints
  · simp [none] at member
  · rw [same] at member
    exact fits.lines (List.mem_append_right _ (List.mem_flatMap.mpr ⟨entry, listed, member⟩))

theorem any_told (fits : k.Fits c) : Told k (anyOf c).imports [(anyOf c).expression] :=
  fixed_told fits (by simp [anyOf, Capabilities.fixed])
    fun member => fits.lines (List.mem_append_left _ member)

theorem sequence_told (fits : k.Fits c) {item : Mapped} (told : Told k item.imports [item.expression]) :
    Told k (sequenceOf c item).imports [(sequenceOf c item).expression] := by
  -- Items are put into parentheses only where nothing stands before them.
  simp only [sequenceOf, fits.sequence.1, Bool.false_and, Bool.false_eq_true, if_false]
  exact frame_told fits fits.sequence.2 (told_one.mp told)

theorem variants_told {variants : List Mapped} (each : ∀ v ∈ variants, Told k v.imports [v.expression]) :
    Told k (mergeImports (variants.map (·.imports))) (variants.map (·.expression)).eraseDups := by
  unfold Told
  simp only [merged_member, List.mem_eraseDups, List.mem_map, exists_exists_and_eq_and]
  constructor
  · rintro ⟨v, listed, member⟩
    exact ⟨v, listed, (told_one.mp (each v listed)).mp member⟩
  · rintro ⟨v, listed, inside⟩
    exact ⟨v, listed, (told_one.mp (each v listed)).mpr inside⟩

theorem inline_told (fits : k.Fits c) {variants : List Mapped}
    (each : ∀ v ∈ variants, Told k v.imports [v.expression]) :
    Told k (inlineUnion c variants).imports [(inlineUnion c variants).expression] := by
  have all := variants_told each
  unfold inlineUnion
  simp only []
  split
  · exact any_told fits
  next only same => rwa [same] at all
  next several _ _ =>
    refine frame_told fits fits.union ?_
    rw [Container.within_intercalate fits (by assumption)]
    exact all

theorem box_told (fits : k.Fits c) (told : Told k mapped.imports [mapped.expression]) :
    Told k (box c mapped).imports [(box c mapped).expression] := by
  unfold box
  split
  next boxed found =>
    obtain ⟨front, back, same, _⟩ := List.lookup_eq_some_iff.mp found
    have listed : (mapped.expression, boxed) ∈ c.boxed := by simp [same]
    have without : ¬ k.Within mapped.expression.toList :=
      fits.fixed _ (List.mem_append_right _ (List.mem_map.mpr ⟨_, listed, rfl⟩))
    refine fixed_told fits ?_ fun member => without ((told_one.mp told).mp member)
    exact List.mem_append_right _ (List.mem_map.mpr ⟨_, listed, rfl⟩)
  next => exact told

theorem used_told (fits : k.Fits c) (nullable : Bool) (usage : Usage)
    (told : Told k mapped.imports [mapped.expression]) :
    Told k (used c nullable usage mapped).imports [(used c nullable usage mapped).expression] := by
  unfold used
  split
  · unfold optional
    rw [fits.optional.1]
    exact frame_told fits fits.optional.2 (told_one.mp (box_told fits told))
  · split
    · exact box_told fits told
    · exact told

structure Once (c : Capabilities) : Prop where
  any : c.anyImports.Nodup
  formats : ∀ entry ∈ c.formats, entry.2.2.Nodup

theorem language_once (language : Language) : Once language.capabilities := by
  cases language <;> exact ⟨by decide, by decide⟩

theorem merged_once (groups : List (List String)) : (mergeImports groups).Nodup :=
  Schema.nodup_erase_dups _

theorem used_once (c : Capabilities) (nullable : Bool) (usage : Usage) (once : mapped.imports.Nodup) :
    (used c nullable usage mapped).imports.Nodup := by
  have boxed : (box c mapped).imports = mapped.imports := by
    unfold box
    split <;> rfl
  unfold used
  split
  · unfold optional
    split
    · split
      · exact once
      · split
        · exact once
        · split <;> exact once
    · exact merged_once _
  · split
    · exact boxed ▸ once
    · exact once

theorem inline_once (once : Once c) (variants : List Mapped) :
    (inlineUnion c variants).imports.Nodup := by
  unfold inlineUnion
  simp only []
  split
  · exact once.any
  · exact merged_once _
  · exact merged_once _

variable {language : Language}

theorem used_exact (nullable : Bool) (usage : Usage) (bare : Exact language mapped) :
    Exact language (used language.capabilities nullable usage mapped) := by
  obtain ⟨variants, imports⟩ := used_variants language.capabilities nullable usage mapped
  refine ⟨used_once _ nullable usage bare.once, imports ▸ bare.variantsOnce, fun k listed => ?_, ?_⟩
  · exact used_told (Container.containers_fit language k listed) nullable usage (bare.containers k listed)
  · rw [variants, imports]
    exact bare.variants

-- What has no variants has nothing to import for them.
theorem exact_alone (alone : mapped.variants = [] ∧ mapped.variantImports = [])
    (once : mapped.imports.Nodup)
    (told : ∀ k ∈ language.containers, k.Fits language.capabilities →
      Told k mapped.imports [mapped.expression]) : Exact language mapped := by
  obtain ⟨none, nothing⟩ := alone
  refine ⟨once, by simp [nothing], fun k listed => ?_, by simp [none, nothing, Told]⟩
  exact told k listed (Container.containers_fit language k listed)

-- Induction on how the answer is built, one case for each way.
theorem built_exact {inside : Bool} (built : Built language.capabilities inside mapped) :
    Exact language mapped := by
  have once := language_once language
  induction built with
  | name form => exact exact_alone ⟨rfl, rfl⟩ List.nodup_nil fun k _ fits => name_told fits form
  | constants base pairs predicate form =>
      exact exact_alone ⟨rfl, rfl⟩ List.nodup_nil fun k _ fits => name_told fits form
  | primitive kind constraints =>
      refine exact_alone (primitive_alone _ _ _) ?_ fun k _ fits => primitive_told fits kind constraints
      obtain none | ⟨entry, listed, same⟩ := primitive_imports language.capabilities kind constraints
      · simp [none]
      · exact same ▸ once.formats entry listed
  | any => exact exact_alone ⟨rfl, rfl⟩ once.any fun k _ fits => any_told fits
  | placeholder metadata => exact exact_alone ⟨rfl, rfl⟩ once.any fun k _ fits => any_told fits
  | sequence _ ih =>
      refine exact_alone ⟨rfl, rfl⟩ (merged_once _) fun k listed fits => ?_
      exact sequence_told fits (ih.containers k listed)
  | map _ ih =>
      refine exact_alone ⟨rfl, rfl⟩ (merged_once _) fun k listed fits => ?_
      exact frame_told fits fits.map (told_one.mp (ih.containers k listed))
  | anyMap =>
      refine exact_alone ⟨rfl, rfl⟩ (merged_once _) fun k _ fits => ?_
      exact frame_told fits fits.map (told_one.mp (any_told fits))
  | inline _ _ ih =>
      refine exact_alone (inline_alone _ _) (inline_once once _) fun k listed fits => ?_
      exact inline_told fits fun v member => (ih v member).containers k listed
  | union discriminator form _ ih =>
      refine ⟨List.nodup_nil, merged_once _, fun k listed => ?_, fun k listed => ?_⟩
      · exact name_told (Container.containers_fit language k listed) form
      · exact variants_told fun v member => (ih v member).containers k listed
  | inside nullable _ ih => exact used_exact nullable _ ih

/-- Whatever was asked before, an answer imports each line once and a container exactly if it begins
in the expression; so it is for the variants of a union with a name. -/
theorem imports_exact (s : Schema) (language : Language) (history : List Request) (ref : TypeRef)
    (usage : Usage) :
    let m := (make s language []).after history
    ∀ mapped, (m.run (m.mapType ref usage)).1 = .ok mapped → Exact language mapped := by
  intro m mapped answered
  obtain ⟨bare, built, rfl⟩ := answer_built answered
  exact used_exact ref.nullable usage (built_exact built)

theorem table_imports : ∀ language : Language, ∃ mapped, tabled language "type_0" = .ok mapped ∧
    Exact language mapped := by
  intro language
  obtain ⟨mapped, answered⟩ := tabled_answers language (table.types[0]) (by simp [table])
  exact ⟨mapped, answered, imports_exact table language [] ⟨"type_0", false⟩ {} mapped answered⟩

example : (tabled .python "type_0").toOption.map (fun mapped => (mapped.expression, mapped.imports)) =
    some ("Dict[str, Optional[List[Union[int, Optional[Row]]]]]",
      ["from typing import Optional", "from typing import Union", "from typing import List",
        "from typing import Dict"]) := by
  decide +kernel

end Mapper

end ApiSchema
