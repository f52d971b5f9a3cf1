import ApiSchema.Proofs.Text.Pattern
import Mathlib.Data.List.Chain
import Mathlib.Data.List.TakeWhile

namespace ApiSchema.Text

section Words

variable {part text : List Char} {c : Char}

def IsUniform (word : List Char) : Prop :=
  (∀ c ∈ word, c.isDigit = true) ∨ ∀ c ∈ word, c.isAlpha = true

theorem take_word (kind : Char → Bool) (c : Char) (rest : List Char) :
    (c :: rest).take (1 + (rest.takeWhile kind).length) = c :: rest.takeWhile kind := by
  have whole := congrArg (List.take (rest.takeWhile kind).length)
    (List.takeWhile_append_dropWhile (p := kind) (l := rest))
  rw [List.take_left] at whole
  rw [Nat.add_comm, List.take_succ_cons, ← whole]

theorem front_uniform (letters : ∀ x ∈ c :: text, isLetterOrDigit x = true) :
    IsUniform ((c :: text).take (wordLength (c :: text))) := by
  -- But for capitals, a word is a character and the run of one kind behind it.
  have alpha {kind : Char → Bool} (first : c.isAlpha = true) (kinds : ∀ x, kind x = true → x.isAlpha = true) :
      ∀ x ∈ c :: text.takeWhile kind, x.isAlpha = true := by
    intro x member
    obtain rfl | later := List.mem_cons.mp member
    · exact first
    · exact kinds x (List.mem_takeWhile_imp later)
  obtain digit | small | capital := letter_cases (letters c (by simp))
  · rw [wordLength, if_pos digit, take_word]
    refine .inl fun x member => ?_
    obtain rfl | later := List.mem_cons.mp member
    · exact digit
    · exact List.mem_takeWhile_imp later
  · rw [wordLength, (small_kind (letters c (by simp)) small).2, if_neg Bool.false_ne_true, if_pos small,
      take_word]
    exact .inr (alpha (small_alpha small) fun _ => small_alpha)
  · obtain ⟨small, digit⟩ := capital_kind (letters c (by simp)) capital
    obtain ⟨front, d, after, same, run, last, stop⟩ := split_capitals capital text
    have length := capitals_length run last stop
    rw [wordLength, digit, if_neg Bool.false_ne_true, small, if_neg Bool.false_ne_true]
    refine .inr ?_
    by_cases zero : capitalsLength (c :: text) = 0
    · simp only [zero, if_true, take_word]
      exact alpha (capital_alpha capital) fun _ => small_alpha
    · have most : capitalsLength (c :: text) ≤ (front ++ [d]).length := by
        rw [same, length]
        split <;> simp
      simp only [if_neg zero]
      intro x member
      generalize capitalsLength (c :: text) = n at most member
      rw [same, List.append_cons front d after, List.take_append_of_le_length most] at member
      obtain before | rest := List.mem_append.mp (List.mem_of_mem_take member)
      · exact capital_alpha (run x before)
      · exact capital_alpha (List.mem_singleton.mp rest ▸ last)

theorem word_uniform {word : List Char} (letters : ∀ c ∈ part, isLetterOrDigit c = true)
    (member : word ∈ cutWords part) : IsUniform word := by
  fun_induction cutWords part with
  | case1 => cases member
  | case2 c rest length ih =>
      obtain rfl | later := List.mem_cons.mp member
      · have front := front_uniform letters
        obtain ⟨n, same⟩ := Nat.exists_eq_add_one.mpr (word_length_pos c rest)
        have cut : length = n := by simp [length, same]
        rwa [same, List.take_succ_cons, ← cut] at front
      · exact ih (fun x inside => letters x (List.mem_cons_of_mem _ (List.mem_of_mem_drop inside))) later

theorem cut_run {kind : Char → Bool} (run : ∀ x ∈ c :: text, kind x = true)
    (length : wordLength (c :: text) = 1 + (text.takeWhile kind).length) :
    cutWords (c :: text) = [c :: text] := by
  have whole : text.takeWhile kind = text :=
    List.takeWhile_eq_self_iff.mpr fun x member => run x (by simp [member])
  have cut : wordLength (c :: text) - 1 = text.length := by
    rw [length, whole]
    omega
  rw [cutWords]
  simp only [cut, List.take_length, List.drop_length]
  rw [cutWords]

theorem cut_digits {word : List Char} (filled : word ≠ []) (digits : ∀ c ∈ word, c.isDigit = true) :
    cutWords word = [word] := by
  obtain ⟨c, rest, rfl⟩ := List.exists_cons_of_ne_nil filled
  refine cut_run digits ?_
  rw [wordLength, if_pos (digits c (by simp))]

theorem cut_small {word : List Char} (filled : word ≠ [])
    (small : ∀ c ∈ word, isLetterOrDigit c = true ∧ c.isLower = true) : cutWords word = [word] := by
  obtain ⟨c, rest, rfl⟩ := List.exists_cons_of_ne_nil filled
  obtain ⟨letter, low⟩ := small c (by simp)
  refine cut_run (fun x member => (small x member).2) ?_
  rw [wordLength, (small_kind letter low).2, if_neg Bool.false_ne_true, if_pos low]

end Words

section Names

variable {text : List Char}

theorem small_lower {c : Char} (letter : isLetterOrDigit c = true) (small : c.isLower = true) :
    c.toLower = c :=
  word_forall (fun c => c.isLower = true → c.toLower = c) (by decide +kernel) (letter_word letter) small

theorem digit_lower {c : Char} (digit : c.isDigit = true) : c.toLower = c := by
  have all : decimalDigits.all (fun d => d.toLower == d) = true := by decide
  simpa using List.all_eq_true.mp all c (digit_listed digit)

theorem alpha_lower {c : Char} (alpha : c.isAlpha = true) : c.toLower.isLower = true := by
  have letter : isWordChar c = true := by simp [isWordChar, isLetterOrDigit, alpha]
  exact word_forall (fun c => c.isAlpha = true → c.toLower.isLower = true) (by decide +kernel) letter alpha

-- A word that is kept is cut no further.
theorem kept_uniform {word : List Char} (member : word ∈ keptWords text) :
    (∀ c ∈ word, c.isDigit = true) ∨ ∀ c ∈ word, c.isLower = true := by
  unfold keptWords at member
  split at member
  · rw [List.mem_singleton.mp member]
    exact .inr (List.all_eq_true.mp (by decide))
  · obtain ⟨cut, listed, rfl⟩ := List.mem_map.mp member
    obtain ⟨part, there, inside⟩ := List.mem_flatMap.mp listed
    obtain digits | alphas := word_uniform (part_letters there).2 inside
    · refine .inl fun c lowered => ?_
      obtain ⟨d, old, rfl⟩ := List.mem_map.mp lowered
      rw [digit_lower (digits d old)]
      exact digits d old
    · refine .inr fun c lowered => ?_
      obtain ⟨d, old, rfl⟩ := List.mem_map.mp lowered
      exact alpha_lower (alphas d old)

theorem kept_cut {word : List Char} (member : word ∈ keptWords text) : cutWords word = [word] := by
  obtain ⟨filled, letters, _⟩ := (kept_words text).2 word member
  obtain digits | small := kept_uniform member
  · exact cut_digits filled digits
  · exact cut_small filled fun c inside => ⟨letters c inside, small c inside⟩

theorem snake_parts (text : List Char) : parts (snakeCase text) = keptWords text := by
  rw [snake_case_kept]
  exact parts_joined fun word member => ⟨((kept_words text).2 word member).filled,
    ((kept_words text).2 word member).letters⟩

theorem snake_again (text : List Char) : snakeCase (snakeCase text) = snakeCase text := by
  have cut : (keptWords text).flatMap cutWords = keptWords text := by
    refine (List.flatMap_congr fun word member => ?_).trans (List.flatMap_singleton' _)
    exact kept_cut member
  have small : (keptWords text).map (·.map Char.toLower) = keptWords text := by
    refine (List.map_congr_left fun word member => ?_).trans (List.map_id _)
    refine (List.map_congr_left fun c inside => ?_).trans (List.map_id _)
    obtain digits | small := kept_uniform member
    · exact digit_lower (digits c inside)
    · exact small_lower (((kept_words text).2 word member).letters c inside) (small c inside)
  have kept : keptWords (snakeCase text) = keptWords text := by
    rw [keptWords, snake_parts, cut]
    split
    next none => exact absurd none (kept_words text).1
    next => exact small
  rw [snake_case_kept (snakeCase text), kept, ← snake_case_kept]

theorem letters_only {word : List Char} (letters : ∀ c ∈ word, isLetterOrDigit c = true) :
    word.filter (· != '_') = word := by
  rw [List.filter_eq_self]
  exact fun c member => by simpa using letter_apart (letters c member)

theorem joined_letters {words : List (List Char)} (each : ∀ word ∈ words, IsWord word) :
    (List.intercalate ['_'] words).filter (· != '_') = words.flatten := by
  induction words with
  | nil => rfl
  | cons first rest ih =>
      have front := letters_only (each first (by simp)).letters
      have onward := ih fun word member => each word (by simp [member])
      cases rest with
      | nil => simpa [List.intercalate] using front
      | cons next more =>
          rw [List.intercalate_cons_cons, List.filter_append, List.filter_append, front, onward]
          simp

theorem guard_letters (text : List Char) :
    (guardDigit text).filter (· != '_') = text.filter (· != '_') := by
  cases text with
  | nil => rfl
  | cons c rest =>
      simp only [guardDigit]
      split
      · exact List.filter_cons_of_neg (by simp)
      · rfl

theorem snake_letters (text : List Char) :
    (snakeCase text).filter (· != '_') = (keptWords text).flatten := by
  rw [snake_case_kept, guard_letters, joined_letters (kept_words text).2]

theorem cut_flatten (pieces : List (List Char)) :
    (pieces.flatMap cutWords).flatten = pieces.flatten := by
  induction pieces with
  | nil => rfl
  | cons piece rest ih =>
      rw [List.flatMap_cons, List.flatten_append, flatten_cutWords, ih, List.flatten_cons]

theorem kept_flatten (some : (parts text).flatten ≠ []) :
    (keptWords text).flatten = (parts text).flatten.map Char.toLower := by
  have whole := cut_flatten (parts text)
  rw [← whole] at some ⊢
  unfold keptWords
  split
  next none => exact absurd (by rw [none]; rfl) some
  next => rw [List.map_flatten]

theorem snake_unnamed (none : (parts text).flatten = []) : snakeCase text = "unnamed".toList := by
  have empty : parts text = [] := by
    cases same : parts text with
    | nil => rfl
    | cons part rest =>
        have filled := (part_letters (same ▸ List.mem_cons_self)).1
        rw [same, List.flatten_cons] at none
        exact absurd (List.append_eq_nil_iff.mp none).1 filled
  rw [snake_case_kept, keptWords, empty]
  decide

structure IsSnakeName (name : List Char) : Prop where
  filled : name ≠ []
  characters : ∀ c ∈ name, c.isLower = true ∨ c.isDigit = true ∨ c = '_'
  single : name.IsChain fun a b => a ≠ '_' ∨ b ≠ '_'
  back : name.getLast? ≠ some '_'
  front : ∀ rest, name = '_' :: rest → rest.head?.any Char.isDigit = true

theorem letters_single {word : List Char} (letters : ∀ c ∈ word, isLetterOrDigit c = true) :
    word.IsChain fun a b => a ≠ '_' ∨ b ≠ '_' := by
  induction word with
  | nil => exact .nil
  | cons c rest ih =>
      rw [List.isChain_cons]
      exact ⟨fun _ _ => .inl (letter_apart (letters c (by simp))),
        ih fun d member => letters d (by simp [member])⟩

theorem letters_back {word : List Char} (letters : ∀ c ∈ word, isLetterOrDigit c = true) :
    word.getLast? ≠ some '_' :=
  fun last => letter_apart (letters '_' (List.mem_of_getLast? last)) rfl

theorem joined_single {words : List (List Char)} (each : ∀ word ∈ words, IsWord word) :
    (List.intercalate ['_'] words).IsChain (fun a b => a ≠ '_' ∨ b ≠ '_') ∧
      (List.intercalate ['_'] words).getLast? ≠ some '_' := by
  induction words with
  | nil => exact ⟨.nil, by simp [List.intercalate]⟩
  | cons first rest ih =>
      have letters := (each first (by simp)).letters
      have later : ∀ word ∈ rest, IsWord word := fun word member => each word (by simp [member])
      obtain ⟨single, back⟩ := ih later
      cases rest with
      | nil => simpa [List.intercalate] using And.intro (letters_single letters) (letters_back letters)
      | cons next more =>
          have filled := joined_filled (List.cons_ne_nil next more) later
          have front := joined_front later
          rw [List.intercalate_cons_cons, List.append_assoc, List.singleton_append]
          -- The underscore in between stands beside a letter or digit on either side.
          refine ⟨?_, ?_⟩
          · rw [List.isChain_append, List.isChain_cons]
            refine ⟨letters_single letters, ⟨fun y head => .inr ?_, single⟩, fun x last _ _ => .inl ?_⟩
            · rintro rfl
              exact front head
            · rintro rfl
              exact letters_back letters last
          · rw [List.getLast?_append_of_ne_nil _ (List.cons_ne_nil _ _), List.getLast?_cons_of_ne_nil filled]
            exact back

theorem snake_form (text : List Char) : IsSnakeName (snakeCase text) := by
  obtain ⟨some, each⟩ := kept_words text
  have filled := joined_filled some each
  have front := joined_front each
  obtain ⟨single, back⟩ := joined_single each
  have inside : ∀ c ∈ List.intercalate ['_'] (keptWords text),
      c.isLower = true ∨ c.isDigit = true ∨ c = '_' := by
    intro c member
    obtain rfl | ⟨word, listed, inside⟩ := joined_member member
    · exact .inr (.inr rfl)
    · obtain digits | small := kept_uniform listed
      · exact .inr (.inl (digits c inside))
      · exact .inl (small c inside)
  rw [snake_case_kept]
  -- What the guard puts in front is an underscore before a digit, and nothing else starts with one.
  obtain ⟨c, rest, same⟩ := List.exists_cons_of_ne_nil filled
  rw [same] at front single back inside ⊢
  have other : c ≠ '_' := by simpa using front
  rw [guardDigit]
  by_cases digit : c.isDigit = true
  · rw [if_pos digit]
    refine ⟨by simp, fun x member => ?_, ?_, by simpa using back, fun more guarded => ?_⟩
    · obtain rfl | later := List.mem_cons.mp member
      · exact .inr (.inr rfl)
      · exact inside x later
    · rw [List.isChain_cons_cons]
      exact ⟨.inr other, single⟩
    · rw [← (List.cons.inj guarded).2]
      simpa using digit
  · rw [if_neg digit]
    exact ⟨by simp, inside, single, back, fun more guarded => absurd (List.cons.inj guarded).1 other⟩

theorem guard_front (front : text.head? ≠ some '_') :
    (guardDigit text).head? = some '_' ↔ text.head?.any Char.isDigit = true := by
  cases text with
  | nil => simp [guardDigit]
  | cons c rest =>
      by_cases digit : c.isDigit = true
      · simp [guardDigit, digit]
      · simpa [guardDigit, digit] using front

theorem lower_digit {c : Char} (letter : isLetterOrDigit c = true) : c.toLower.isDigit = c.isDigit :=
  word_forall (fun c => c.toLower.isDigit = c.isDigit) (by decide +kernel) (letter_word letter)

theorem snake_front (text : List Char) : (snakeCase text).head? = some '_' ↔
    ((parts text).flatMap cutWords).head?.any (·.head?.any Char.isDigit) = true := by
  have front := joined_front (kept_words text).2
  rw [snake_case_kept, guard_front front, keptWords]
  cases same : (parts text).flatMap cutWords with
  | nil => decide
  | cons word words =>
      obtain ⟨part, listed, member⟩ := List.mem_flatMap.mp (same ▸ List.mem_cons_self : word ∈ _)
      obtain ⟨c, rest, rfl⟩ := List.exists_cons_of_ne_nil (word_filled member)
      have letter := word_letters (part_letters listed).2 member c (by simp)
      simp only [List.map_cons]
      rw [joined_head (List.cons_ne_nil _ _)]
      simp [lower_digit letter]

/-- No letter or digit is lost in a name in words. A search for words finds all of a part; without its
underscores the name is the parts in lower case; it is made of small letters and digits, with single
underscores inside and one in front exactly if the first word is a number; and the name of a name is the
name itself. -/
theorem snake_complete (text : List Char) :
    (∀ part ∈ parts text, Pattern.word.found part = cutWords part ∧
      ((Pattern.word.found part).map (·.map Char.toLower)).flatten = part.map Char.toLower) ∧
    ((parts text).flatten ≠ [] →
      (snakeCase text).filter (· != '_') = (parts text).flatten.map Char.toLower) ∧
    ((parts text).flatten = [] → snakeCase text = "unnamed".toList) ∧
    IsSnakeName (snakeCase text) ∧
    ((snakeCase text).head? = some '_' ↔
      ((parts text).flatMap Pattern.word.found).head?.any (·.head?.any Char.isDigit) = true) ∧
    snakeCase (snakeCase text) = snakeCase text := by
  have all : ∀ part ∈ parts text, Pattern.word.found part = cutWords part := fun _ member =>
    found_words (part_letters member).2
  refine ⟨fun part member => ⟨all part member, ?_⟩, fun some => ?_, snake_unnamed, snake_form text, ?_,
    snake_again text⟩
  · rw [all part member, ← List.map_flatten, flatten_cutWords]
  · rw [snake_letters, kept_flatten some]
  · rw [List.flatMap_congr all]
    exact snake_front text

theorem snake_complete_capitals : ["2HTTPServers".toList, "go".toList].flatten ≠ [] ∧
    (snakeCase "2HTTPServers-go".toList).filter (· != '_') = "2httpserversgo".toList ∧
    Pattern.word.found "2HTTPServers".toList = [['2'], "HTTP".toList, "Servers".toList] := by
  obtain ⟨search, letters, -⟩ := snake_complete "2HTTPServers-go".toList
  have cut : parts "2HTTPServers-go".toList = ["2HTTPServers".toList, "go".toList] := by decide
  rw [cut] at search letters
  refine ⟨by decide, letters (by decide), ?_⟩
  rw [(search _ (by simp)).1]
  decide +kernel

end Names

end ApiSchema.Text
