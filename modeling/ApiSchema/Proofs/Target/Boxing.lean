import ApiSchema.Proofs.Target.Built
import Mathlib.Data.List.Infix

namespace ApiSchema.Java

open Mapper

def primitives : List String := ["long", "double", "boolean"]

def marks : List String := ["<", ", "]

def argument (mark name : String) : List Char := (mark ++ name ++ ">").toList

def Boxed (expression : String) : Prop :=
  ∀ mark ∈ marks, ∀ name ∈ primitives, ¬ argument mark name <:+: expression.toList

structure Generic (mapped : Mapped) : Prop where
  expression : Boxed mapped.expression
  variants : ∀ text ∈ mapped.variants, Boxed text ∧ text ∉ primitives

inductive Form : List Char → Prop
  | word {text : List Char} : (∀ c ∈ text, Text.isWordChar c = true) → Form text
  | closed {text rest : List Char} : (∀ c ∈ text, Text.isWordChar c = true) →
      Form (text ++ '<' :: (rest ++ ['>']))

def containers : List Template :=
  [Language.javaTypes.sequence, Language.javaTypes.map, Language.javaTypes.optional]

variable {text rest : List Char} {t : Template} {inner mark name : String}

theorem word_cut {one two rest more : List Char} {c d : Char}
    (same : one ++ c :: rest = two ++ d :: more) (first : ∀ c ∈ one, Text.isWordChar c = true)
    (second : ∀ c ∈ two, Text.isWordChar c = true) (left : Text.isWordChar c = false)
    (right : Text.isWordChar d = false) : one = two ∧ c = d := by
  have front := congrArg (List.takeWhile Text.isWordChar) same
  have back := congrArg (List.dropWhile Text.isWordChar) same
  rw [List.takeWhile_append_of_pos first, List.takeWhile_append_of_pos second] at front
  rw [List.dropWhile_append_of_pos first, List.dropWhile_append_of_pos second] at back
  simp only [List.takeWhile_cons, List.dropWhile_cons, left, right, Bool.false_eq_true, if_false,
    List.append_nil, List.cons.injEq] at front back
  exact ⟨front, back.1⟩

theorem primitive_word (listed : name ∈ primitives) :
    name.toList ≠ [] ∧ ∀ c ∈ name.toList, Text.isWordChar c = true := by
  have all : ∀ name ∈ primitives, name.toList ≠ [] ∧ name.toList.all Text.isWordChar = true := by
    decide +kernel
  obtain ⟨filled, word⟩ := all name listed
  exact ⟨filled, List.all_eq_true.mp word⟩

theorem mark_spelled (listed : mark ∈ marks) (name : String) :
    ∃ c rest, Text.isWordChar c = false ∧ argument mark name = c :: (rest ++ name.toList ++ ['>']) := by
  simp only [marks, List.mem_cons, List.not_mem_nil, or_false] at listed
  rcases listed with rfl | rfl
  · exact ⟨'<', [], by decide, by simp [argument]⟩
  · exact ⟨',', [' '], by decide, by simp [argument]⟩

-- An argument at the very end would have to end in front of the last bracket.
theorem argument_last (form : Form text) (marked : mark ∈ marks) (listed : name ∈ primitives) :
    ¬ argument mark name <:+ text ++ ['>'] := by
  intro behind
  obtain ⟨c, rest, apart, spelled⟩ := mark_spelled marked name
  obtain ⟨filled, word⟩ := primitive_word listed
  obtain ⟨front, same⟩ := behind
  rw [spelled, ← List.cons_append, ← List.append_assoc, List.append_left_inj] at same
  cases form with
  | word plain => exact absurd (plain c (by simp [← same])) (by simp [apart])
  | @closed text more plain =>
      rcases List.eq_nil_or_concat name.toList with none | ⟨start, last, ends⟩
      · exact filled none
      · have lasts := congrArg List.reverse same
        simp only [ends, List.reverse_append, List.reverse_cons] at lasts
        have bracket : last = '>' := by simpa using congrArg List.head? lasts
        exact absurd (word last (by simp [ends])) (by rw [bracket]; decide)

-- An argument at the very front is what is put in.
theorem argument_first (form : Form text) (listed : name ∈ primitives) (other : text ≠ name.toList) :
    ¬ name.toList ++ ['>'] <+: text ++ ['>'] := by
  rintro ⟨back, same⟩
  obtain ⟨_, word⟩ := primitive_word listed
  cases form with
  | word plain =>
      rw [List.append_assoc, List.singleton_append] at same
      exact other (word_cut same word plain (by decide) (by decide)).1.symm
  | closed plain =>
      rw [List.append_assoc, List.singleton_append, List.append_assoc, List.cons_append] at same
      exact absurd (word_cut same word plain (by decide) (by decide)).2 (by decide)

theorem frame_marks : ∀ t ∈ containers, ∀ mark ∈ marks, ∀ name ∈ primitives,
    ∀ tail ∈ t.before.toList.tails, tail <+: argument mark name → tail = [] ∨ tail = mark.toList := by
  decide +kernel

theorem container_form (listed : t ∈ containers) :
    (∃ word rest, t.before.toList = word ++ '<' :: rest ∧ ∀ c ∈ word, Text.isWordChar c = true) ∧
      t.after = ">" ∧ '>' ∉ t.before.toList := by
  simp only [containers, List.mem_cons, List.not_mem_nil, or_false] at listed
  have words (word : String) (plain : word.toList.all Text.isWordChar = true) :
    ∀ c ∈ word.toList, Text.isWordChar c = true := List.all_eq_true.mp plain
  rcases listed with rfl | rfl | rfl
  · exact ⟨⟨"List".toList, [], by decide, words _ (by decide)⟩, rfl, by decide⟩
  · exact ⟨⟨"Map".toList, "String, ".toList, by decide, words _ (by decide)⟩, rfl, by decide⟩
  · exact ⟨⟨"Optional".toList, [], by decide, words _ (by decide)⟩, rfl, by decide⟩

structure Sound (expression : String) : Prop where
  form : Form expression.toList
  boxed : Boxed expression

theorem word_sound (plain : ∀ c ∈ inner.toList, Text.isWordChar c = true) : Sound inner := by
  refine ⟨.word plain, fun mark marked name _ inside => ?_⟩
  obtain ⟨c, rest, apart, spelled⟩ := mark_spelled marked name
  exact absurd (plain c (inside.subset (by simp [spelled]))) (by simp [apart])

theorem fill_form (listed : t ∈ containers) (inner : String) : Form (t.fill inner).toList := by
  obtain ⟨⟨word, rest, before, plain⟩, after, _⟩ := container_form listed
  have spelled : (t.fill inner).toList = word ++ '<' :: ((rest ++ inner.toList) ++ ['>']) := by
    simp [Template.fill, before, after]
  exact spelled ▸ .closed plain

-- A primitive in brackets can only stand across the front of what is put in.
theorem fill_sound (listed : t ∈ containers) (sound : Sound inner) (other : inner ∉ primitives) :
    Sound (t.fill inner) := by
  obtain ⟨-, after, unclosed⟩ := container_form listed
  refine ⟨fill_form listed inner, fun mark marked name known inside => ?_⟩
  have within : ¬ argument mark name <:+: inner.toList ++ ['>'] := by
    rw [List.infix_concat_iff]
    rintro (last | deep)
    · exact argument_last sound.form marked known last
    · exact sound.boxed mark marked name known deep
  have spelled : (t.fill inner).toList = t.before.toList ++ (inner.toList ++ ['>']) := by
    simp [Template.fill, after]
  rw [spelled] at inside
  obtain before | later | ⟨front, back, same, behind, ahead⟩ := List.infix_append_iff.mp inside
  · exact unclosed (before.subset (by simp [argument]))
  · exact within later
  · have tail := (List.mem_tails _ _).mpr behind
    rcases frame_marks t listed mark marked name known front tail ⟨back, same.symm⟩ with none | whole
    · rw [none, List.nil_append] at same
      exact within (same ▸ ahead.isInfix)
    · have rest : back = name.toList ++ ['>'] := by
        simpa [argument, whole, eq_comm] using same
      refine argument_first sound.form known ?_ (rest ▸ ahead)
      intro spelled
      exact other (String.toList_injective spelled ▸ known)

theorem fill_other (listed : t ∈ containers) (inner : String) : t.fill inner ∉ primitives := by
  intro known
  obtain ⟨-, after, -⟩ := container_form listed
  have bracket : Text.isWordChar '>' = true :=
    (primitive_word known).2 '>' (by simp [Template.fill, after])
  exact absurd bracket (by decide)

section Built

variable {mapped : Mapped}

theorem fixed_sound {text : String} (listed : text ∈ Language.javaTypes.fixed) : Sound text := by
  have words : ∀ text ∈ Language.javaTypes.fixed, text.toList.all Text.isWordChar = true := by
    decide +kernel
  exact word_sound (List.all_eq_true.mp (words text listed))

theorem box_sound (sound : Sound mapped.expression) :
    Sound (box Language.javaTypes mapped).expression ∧
      (box Language.javaTypes mapped).expression ∉ primitives := by
  unfold box
  split
  next boxed found =>
    obtain ⟨front, back, same, _⟩ := List.lookup_eq_some_iff.mp found
    have listed : (mapped.expression, boxed) ∈ Language.javaTypes.boxed := by simp [same]
    have apart : ∀ pair ∈ Language.javaTypes.boxed, pair.2 ∉ primitives := by decide +kernel
    refine ⟨fixed_sound ?_, apart _ listed⟩
    exact List.mem_append_right _ (List.mem_map.mpr ⟨_, listed, rfl⟩)
  next missing =>
    refine ⟨sound, fun known => ?_⟩
    have all : ∀ name ∈ primitives, (Language.javaTypes.boxed.lookup name).isSome := by decide +kernel
    simpa [missing] using all _ known

theorem used_sound (nullable : Bool) (usage : Usage) (sound : Sound mapped.expression) :
    Sound (used Language.javaTypes nullable usage mapped).expression ∧
      (usage.nested = true → (used Language.javaTypes nullable usage mapped).expression ∉ primitives) := by
  have boxed := box_sound sound
  have listed : Language.javaTypes.optional ∈ containers := by simp [containers]
  unfold used
  split
  · exact ⟨fill_sound listed boxed.1 boxed.2, fun _ => fill_other listed _⟩
  · split
    · exact ⟨boxed.1, fun _ => boxed.2⟩
    next plain => exact ⟨sound, fun nested => absurd nested plain⟩

-- Induction on how the answer is built: what is inside another has been boxed.
theorem built_sound {inside : Bool} (built : Mapper.Built Language.javaTypes inside mapped) :
    Sound mapped.expression ∧ (inside = true → mapped.expression ∉ primitives) ∧
      ∀ text ∈ mapped.variants, Boxed text ∧ text ∉ primitives := by
  have alone {text : String} (sound : Sound text) : Sound text ∧ (false = true → text ∉ primitives) ∧
      ∀ text ∈ ([] : List String), Boxed text ∧ text ∉ primitives :=
    ⟨sound, by simp, by simp⟩
  have any : Sound Language.javaTypes.anyType := fixed_sound (by decide +kernel)
  induction built with
  | name form => exact alone (word_sound form.word)
  | constants base pairs predicate form => exact alone (word_sound form.word)
  | primitive kind constraints =>
      refine ⟨fixed_sound (primitive_fixed _ _ _), by simp, ?_⟩
      simp [(primitive_alone _ kind constraints).1]
  | any => exact alone any
  | placeholder metadata => exact alone any
  | sequence _ ih =>
      obtain ⟨sound, boxed, _⟩ := ih
      exact alone (fill_sound (by simp [containers]) sound (boxed rfl))
  | map _ ih =>
      obtain ⟨sound, boxed, _⟩ := ih
      exact alone (fill_sound (by simp [containers]) sound (boxed rfl))
  | anyMap => exact alone (fill_sound (by simp [containers]) any (by decide +kernel))
  | inline inline => cases inline
  | @union name variants discriminator form _ ih =>
      refine ⟨word_sound form.word, by simp, fun text listed => ?_⟩
      obtain ⟨v, member, rfl⟩ := List.mem_map.mp (List.mem_eraseDups.mp listed)
      obtain ⟨sound, boxed, _⟩ := ih v member
      exact ⟨sound.boxed, boxed rfl⟩
  | @inside nullable bare _ ih =>
      obtain ⟨sound, boxed⟩ := used_sound nullable { nested := true } ih.1
      refine ⟨sound, fun _ => boxed rfl, ?_⟩
      rw [(used_variants _ _ _ _).1]
      exact ih.2.2

end Built

/-- Whatever was asked before, no answer in Java has a primitive as a generic argument, and no variant
of a union is one or has one as an argument. -/
theorem generics_boxed (s : Schema) (history : List Request) (ref : TypeRef) (usage : Usage) :
    let m := (make s .java []).after history
    ∀ mapped, (m.run (m.mapType ref usage)).1 = .ok mapped → Generic mapped := by
  intro m mapped answered
  obtain ⟨bare, built, rfl⟩ := answer_built answered
  obtain ⟨sound, -, variants⟩ := built_sound built
  refine ⟨(used_sound ref.nullable usage sound).1.boxed, ?_⟩
  rw [(used_variants _ _ _ _).1]
  exact variants

theorem table_boxed : ∃ mapped, tabled .java "type_2" = .ok mapped ∧ Generic mapped := by
  obtain ⟨mapped, answered⟩ := tabled_answers .java (table.types[2]) (by simp [table])
  exact ⟨mapped, answered, generics_boxed table [] ⟨"type_2", false⟩ {} mapped answered⟩

example : (tabled .java "type_2").toOption.map (fun mapped => (mapped.expression, mapped.variants)) =
    some ("Cell", ["Long", "Optional<List<Cell>>"]) := by
  decide +kernel

end ApiSchema.Java
