import ApiSchema.Proofs.Text.Identifiers
import ApiSchema.Proofs.Text.Splitting

namespace ApiSchema.Text

def keptLetters (text : List Char) : List Char :=
  match parts text with
  | [] => "UnnamedType".toList
  | pieces => pieces.flatMap capitalizeAscii

def keptWords (text : List Char) : List (List Char) :=
  match (parts text).flatMap cutWords with
  | [] => ["unnamed".toList]
  | words => words.map (·.map Char.toLower)

theorem letter_word {c : Char} (letter : isLetterOrDigit c = true) : isWordChar c = true := by
  simp [isWordChar, letter]

theorem letter_apart {c : Char} (letter : isLetterOrDigit c = true) : c ≠ '_' := by
  rintro rfl
  revert letter
  decide

theorem part_letters {text part : List Char} (member : part ∈ parts text) :
    part ≠ [] ∧ ∀ c ∈ part, isLetterOrDigit c = true := by
  obtain ⟨filled, kept⟩ := piece_apart member
  exact ⟨filled, fun c inside => by simpa using kept c inside⟩

theorem front_letter {text : List Char} (letters : ∀ c ∈ text, isLetterOrDigit c = true) :
    text.head? ≠ some '_' :=
  fun first => letter_apart (letters '_' (List.mem_of_mem_head? first)) rfl

-- The underscore in front of a digit can be told from the text.
theorem guard_dropped {text : List Char} (front : text.head? ≠ some '_') :
    (guardDigit text).dropWhile (· == '_') = text := by
  cases text with
  | nil => rfl
  | cons c rest =>
      have apart : (c == '_') = false := by simpa using front
      simp only [guardDigit]
      split <;> simp [apart]

theorem guard_empty {text : List Char} (empty : guardDigit text = []) : text = [] := by
  cases text with
  | nil => rfl
  | cons c rest =>
      simp only [guardDigit] at empty
      split at empty <;> contradiction

theorem guard_injective {text text' : List Char} (front : text.head? ≠ some '_')
    (front' : text'.head? ≠ some '_') (same : guardDigit text = guardDigit text') : text = text' := by
  have dropped := congrArg (List.dropWhile (· == '_')) same
  rwa [guard_dropped front, guard_dropped front'] at dropped

section Joined

-- A piece ends at the first break. That break, and more that follow, add no piece.
theorem piece_front {isBreak : Char → Bool} {piece rest : List Char} (filled : piece ≠ [])
    (kept : ∀ c ∈ piece, isBreak c = false) (stop : rest.head?.all isBreak = true) :
    splitOnChars isBreak (piece ++ rest) = piece :: splitOnChars isBreak rest := by
  induction piece with
  | nil => exact absurd rfl filled
  | cons c piece ih =>
      have first : ¬ isBreak c = true := by simp [kept c]
      rw [List.cons_append, splitOnChars.eq_def]
      cases piece with
      | nil =>
          cases rest with
          | nil => simp [first, splitOnChars]
          | cons d rest =>
              have broken : isBreak d = true := by simpa using stop
              simp [first, broken]
      | cons d piece =>
          have next : ¬ isBreak d = true := by simp [kept d]
          have onward := ih (List.cons_ne_nil d piece) fun x member => kept x (by simp [member])
          rw [List.cons_append] at onward
          simp [first, next, onward]

theorem break_front {isBreak : Char → Bool} {mark : Char} (broken : isBreak mark = true)
    (rest : List Char) : splitOnChars isBreak (mark :: rest) = splitOnChars isBreak rest := by
  rw [splitOnChars.eq_def]
  simp [broken]

theorem joined_pieces {isBreak : Char → Bool} {mark : Char} (broken : isBreak mark = true)
    {pieces : List (List Char)}
    (each : ∀ piece ∈ pieces, piece ≠ [] ∧ ∀ c ∈ piece, isBreak c = false) :
    splitOnChars isBreak (List.intercalate [mark] pieces) = pieces := by
  induction pieces with
  | nil => rfl
  | cons piece rest ih =>
      obtain ⟨filled, kept⟩ := each piece (by simp)
      have onward := ih fun other member => each other (by simp [member])
      cases rest with
      | nil =>
          have alone : splitOnChars isBreak (piece ++ []) = piece :: splitOnChars isBreak [] :=
            piece_front filled kept rfl
          simpa [List.intercalate, splitOnChars] using alone
      | cons next rest =>
          rw [List.intercalate_cons_cons, List.append_assoc, piece_front filled kept (by simpa using broken),
            List.singleton_append, break_front broken, onward]

theorem accents_none {text : List Char} (ascii : ∀ c ∈ text, c.toNat < 128) :
    withoutAccents text = text := by
  have decomposed : text.flatMap decompose = text := by
    refine (List.flatMap_congr fun c member => ?_).trans (List.flatMap_singleton' text)
    simp [decompose, ascii c member]
  rw [withoutAccents, decomposed, List.filter_eq_self]
  intro c member
  simp [isMark, ascii c member]

theorem guarded_member {text : List Char} {c : Char} (member : c ∈ guardDigit text) :
    c = '_' ∨ c ∈ text := by
  cases text with
  | nil => cases member
  | cons d rest =>
      simp only [guardDigit] at member
      split at member
      · exact List.mem_cons.mp member
      · exact .inr member

theorem joined_member {words : List (List Char)} {c : Char}
    (member : c ∈ List.intercalate ['_'] words) : c = '_' ∨ ∃ word ∈ words, c ∈ word := by
  induction words with
  | nil => simp [List.intercalate] at member
  | cons first rest ih =>
      cases rest with
      | nil => exact .inr ⟨first, by simp, by simpa [List.intercalate] using member⟩
      | cons next more =>
          rw [List.intercalate_cons_cons] at member
          simp only [List.append_assoc, List.mem_append, List.mem_singleton] at member
          obtain here | mark | later := member
          · exact .inr ⟨first, by simp, here⟩
          · exact .inl mark
          · obtain mark | ⟨word, listed, inside⟩ := ih later
            · exact .inl mark
            · exact .inr ⟨word, by simp [listed], inside⟩

theorem guarded_pieces {isBreak : Char → Bool} (broken : isBreak '_' = true) (text : List Char) :
    splitOnChars isBreak (guardDigit text) = splitOnChars isBreak text := by
  cases text with
  | nil => rfl
  | cons c rest =>
      by_cases digit : c.isDigit = true
      · rw [guardDigit, if_pos digit, break_front broken]
      · rw [guardDigit, if_neg digit]

-- The parts of a name are what was joined in it.
theorem parts_joined {pieces : List (List Char)}
    (each : ∀ piece ∈ pieces, piece ≠ [] ∧ ∀ c ∈ piece, isLetterOrDigit c = true) :
    parts (guardDigit (List.intercalate ['_'] pieces)) = pieces := by
  have ascii : ∀ c ∈ guardDigit (List.intercalate ['_'] pieces), c.toNat < 128 := by
    intro c member
    refine word_ascii ?_
    obtain rfl | inside := guarded_member member
    · rfl
    · obtain rfl | ⟨piece, listed, here⟩ := joined_member inside
      · rfl
      · exact letter_word ((each piece listed).2 c here)
  rw [parts, accents_none ascii, guarded_pieces rfl]
  refine joined_pieces rfl fun piece member => ⟨(each piece member).1, fun c inside => ?_⟩
  simp [(each piece member).2 c inside]

end Joined

section TypeNames

theorem capital_letter {c : Char} (letter : isLetterOrDigit c = true) :
    isLetterOrDigit c.toUpper = true ∧ c.toUpper.isDigit = c.isDigit ∧ c.toUpper.toUpper = c.toUpper :=
  word_forall (fun c => isLetterOrDigit c = true →
    isLetterOrDigit c.toUpper = true ∧ c.toUpper.isDigit = c.isDigit ∧ c.toUpper.toUpper = c.toUpper)
    (by decide +kernel) (letter_word letter) letter

theorem capitalized_letters {text : List Char} (letters : ∀ c ∈ text, isLetterOrDigit c = true) :
    ∀ c ∈ capitalizeAscii text, isLetterOrDigit c = true := by
  cases text with
  | nil => exact letters
  | cons c rest =>
      intro d member
      obtain rfl | later := List.mem_cons.mp member
      · exact (capital_letter (letters c (by simp))).1
      · exact letters d (by simp [later])

theorem kept_letters (text : List Char) : ∀ c ∈ keptLetters text, isLetterOrDigit c = true := by
  unfold keptLetters
  split
  · have all : "UnnamedType".toList.all isLetterOrDigit = true := by decide
    exact List.all_eq_true.mp all
  · intro c member
    obtain ⟨part, listed, inside⟩ := List.mem_flatMap.mp member
    exact capitalized_letters (part_letters listed).2 c inside

theorem capitalized_guard {text : List Char} (letters : ∀ c ∈ text, isLetterOrDigit c = true) :
    capitalizeAscii (guardDigit text) = guardDigit (capitalizeAscii text) := by
  cases text with
  | nil => rfl
  | cons c rest =>
      obtain ⟨_, digit, _⟩ := capital_letter (letters c (by simp))
      by_cases numeral : c.isDigit
      · have same : c.toUpper = c :=
          word_forall (fun c => c.isDigit = true → c.toUpper = c) (by decide +kernel)
            (letter_word (letters c (by simp))) numeral
        simp only [guardDigit, capitalizeAscii, numeral, same, if_true]
        rfl
      · simp [guardDigit, capitalizeAscii, digit, numeral]

theorem capitalized_again (pieces : List (List Char)) (letters : ∀ piece ∈ pieces,
    piece ≠ [] ∧ ∀ c ∈ piece, isLetterOrDigit c = true) :
    capitalizeAscii (pieces.flatMap capitalizeAscii) = pieces.flatMap capitalizeAscii := by
  cases pieces with
  | nil => rfl
  | cons first rest =>
      obtain ⟨filled, letters⟩ := letters first (by simp)
      cases first with
      | nil => contradiction
      | cons c more => simp [capitalizeAscii, (capital_letter (letters c (by simp))).2.2]

theorem type_name_kept (text : List Char) : typeName text = guardDigit (keptLetters text) := by
  have pieces (part : List Char) (member : part ∈ parts text) := part_letters member
  unfold typeName identifier keptLetters
  cases same : parts text with
  | nil => decide
  | cons part rest =>
      rw [same] at pieces
      cases rest with
      | nil =>
          rw [capitalized_guard (pieces part (by simp)).2]
          simp
      | cons next more =>
          have letters : ∀ c ∈ (part :: next :: more).flatMap capitalizeAscii,
              isLetterOrDigit c = true := by
            intro c member
            obtain ⟨piece, listed, inside⟩ := List.mem_flatMap.mp member
            exact capitalized_letters (pieces piece listed).2 c inside
          rw [capitalized_guard letters, capitalized_again _ pieces]

theorem kept_capital (text : List Char) : capitalizeAscii (keptLetters text) = keptLetters text := by
  unfold keptLetters
  split
  · decide
  · exact capitalized_again _ fun _ member => part_letters member

theorem kept_filled (text : List Char) : keptLetters text ≠ [] := by
  unfold keptLetters
  split
  · decide
  next filled =>
    obtain ⟨part, rest, same⟩ := List.exists_cons_of_ne_nil filled
    obtain ⟨c, more, front⟩ := List.exists_cons_of_ne_nil (part_letters (same ▸ List.mem_cons_self)).1
    simp [same, front, capitalizeAscii]

theorem type_name_again (text : List Char) : typeName (typeName text) = typeName text := by
  have alone : parts (typeName text) = [keptLetters text] := by
    have joined : List.intercalate ['_'] [keptLetters text] = keptLetters text := by
      simp [List.intercalate]
    have each : ∀ piece ∈ [keptLetters text], piece ≠ [] ∧ ∀ c ∈ piece, isLetterOrDigit c = true := by
      simpa using And.intro (kept_filled text) (kept_letters text)
    have again := parts_joined each
    rwa [joined, ← type_name_kept] at again
  have kept : keptLetters (typeName text) = keptLetters text := by
    rw [keptLetters, alone]
    simp [kept_capital]
  rw [type_name_kept (typeName text), kept, ← type_name_kept]

inductive IsIdentifier : List Char → Prop
  | capital {first : Char} {rest : List Char} (upper : first.isUpper = true)
      (letters : ∀ c ∈ rest, isLetterOrDigit c = true) : IsIdentifier (first :: rest)
  | numeral {first : Char} {rest : List Char} (digit : first.isDigit = true)
      (letters : ∀ c ∈ rest, isLetterOrDigit c = true) : IsIdentifier ('_' :: first :: rest)

theorem type_name_identifier (text : List Char) : IsIdentifier (typeName text) := by
  have front := kept_capital text
  have letters := kept_letters text
  obtain ⟨c, rest, same⟩ := List.exists_cons_of_ne_nil (kept_filled text)
  rw [same] at front letters
  have letters' : ∀ x ∈ rest, isLetterOrDigit x = true := fun x member => letters x (by simp [member])
  have capital : c.toUpper = c := (List.cons.inj front).1
  rw [type_name_kept, same, guardDigit]
  by_cases digit : c.isDigit = true
  · rw [if_pos digit]
    exact .numeral digit letters'
  · rw [if_neg digit]
    have upper := word_forall (fun c => isLetterOrDigit c = true → c.toUpper = c →
      ¬ c.isDigit = true → c.isUpper = true) (by decide +kernel) (letter_word (letters c (by simp)))
    exact .capital (upper (letters c (by simp)) capital digit) letters'

-- Letters and digits behind an identifier make another one.
theorem IsIdentifier.append {name more : List Char} (formed : IsIdentifier name)
    (letters : ∀ c ∈ more, isLetterOrDigit c = true) : IsIdentifier (name ++ more) := by
  have onward {rest : List Char} (kept : ∀ c ∈ rest, isLetterOrDigit c = true) :
      ∀ c ∈ rest ++ more, isLetterOrDigit c = true := by
    intro c member
    obtain front | back := List.mem_append.mp member
    · exact kept c front
    · exact letters c back
  cases formed with
  | capital upper kept => exact .capital upper (onward kept)
  | numeral digit kept => exact .numeral digit (onward kept)

-- Two texts have one type name exactly if the same letters and digits are kept of them.
theorem type_name_iff (text text' : List Char) :
    typeName text = typeName text' ↔ keptLetters text = keptLetters text' := by
  rw [type_name_kept, type_name_kept]
  exact ⟨guard_injective (front_letter (kept_letters text)) (front_letter (kept_letters text')),
    congrArg guardDigit⟩

end TypeNames

section Words

theorem word_filled {part word : List Char} (member : word ∈ cutWords part) : word ≠ [] := by
  fun_induction cutWords part with
  | case1 => cases member
  | case2 c rest length ih =>
      obtain rfl | later := List.mem_cons.mp member
      · simp
      · exact ih later

theorem word_letters {part word : List Char} (letters : ∀ c ∈ part, isLetterOrDigit c = true)
    (member : word ∈ cutWords part) : ∀ c ∈ word, isLetterOrDigit c = true := by
  intro c inside
  have kept : c ∈ (cutWords part).flatten := List.mem_flatten.mpr ⟨word, member, inside⟩
  exact letters c (flatten_cutWords part ▸ kept)

theorem small_letter {c : Char} (letter : isLetterOrDigit c = true) :
    isLetterOrDigit c.toLower = true ∧ c.toLower.toUpper.toLower = c.toLower :=
  word_forall (fun c => isLetterOrDigit c = true →
    isLetterOrDigit c.toLower = true ∧ c.toLower.toUpper.toLower = c.toLower)
    (by decide +kernel) (letter_word letter) letter

structure IsWord (word : List Char) : Prop where
  filled : word ≠ []
  letters : ∀ c ∈ word, isLetterOrDigit c = true
  small : ∀ c ∈ word, c.toUpper.toLower = c

theorem kept_words (text : List Char) : keptWords text ≠ [] ∧ ∀ word ∈ keptWords text, IsWord word := by
  unfold keptWords
  split
  · refine ⟨by simp, fun word member => ?_⟩
    rw [List.mem_singleton.mp member]
    have all : "unnamed".toList.all fun c => isLetterOrDigit c && c.toUpper.toLower == c := by decide
    have each (c : Char) (inside : c ∈ "unnamed".toList) := List.all_eq_true.mp all c inside
    exact ⟨by decide, fun c inside => by simpa using (Bool.and_eq_true_iff.mp (each c inside)).1,
      fun c inside => by simpa using (Bool.and_eq_true_iff.mp (each c inside)).2⟩
  next filled =>
    refine ⟨by simpa using filled, fun word member => ?_⟩
    obtain ⟨cut, listed, rfl⟩ := List.mem_map.mp member
    obtain ⟨part, there, inside⟩ := List.mem_flatMap.mp listed
    have letters := word_letters (part_letters there).2 inside
    refine ⟨by simpa using word_filled inside, fun c lowered => ?_, fun c lowered => ?_⟩
    · obtain ⟨d, old, rfl⟩ := List.mem_map.mp lowered
      exact (small_letter (letters d old)).1
    · obtain ⟨d, old, rfl⟩ := List.mem_map.mp lowered
      exact (small_letter (letters d old)).2

theorem joined_head {first : List Char} (filled : first ≠ []) (rest : List (List Char)) :
    (List.intercalate ['_'] (first :: rest)).head? = first.head? := by
  cases rest with
  | nil => simp [List.intercalate]
  | cons next more => simp [List.intercalate_cons_cons, List.head?_append_of_ne_nil _ filled]

theorem joined_front {words : List (List Char)} (each : ∀ word ∈ words, IsWord word) :
    (List.intercalate ['_'] words).head? ≠ some '_' := by
  cases words with
  | nil => simp [List.intercalate]
  | cons first rest =>
      obtain ⟨filled, letters, _⟩ := each first (by simp)
      rw [joined_head filled]
      exact front_letter letters

theorem joined_filled {words : List (List Char)} (some : words ≠ []) (each : ∀ word ∈ words, IsWord word) :
    List.intercalate ['_'] words ≠ [] := by
  cases words with
  | nil => contradiction
  | cons first rest =>
      have filled := (each first (by simp)).filled
      cases rest with
      | nil => simpa [List.intercalate] using filled
      | cons next more => simp [List.intercalate_cons_cons, filled]

theorem snake_case_kept (text : List Char) :
    snakeCase text = guardDigit (List.intercalate ['_'] (keptWords text)) := by
  obtain ⟨some, each⟩ := kept_words text
  unfold snakeCase
  unfold keptWords at some each ⊢
  cases same : (parts text).flatMap cutWords with
  | nil => decide
  | cons first rest =>
      simp only [same] at some each ⊢
      have filled := joined_filled some each
      split
      next empty => exact absurd (guard_empty empty) filled
      next => rfl

theorem joined_injective {words words' : List (List Char)} (each : ∀ word ∈ words, IsWord word)
    (each' : ∀ word ∈ words', IsWord word) (some : words ≠ []) (some' : words' ≠ [])
    (same : List.intercalate ['_'] words = List.intercalate ['_'] words') : words = words' := by
  have cut {words : List (List Char)} (some : words ≠ []) (each : ∀ word ∈ words, IsWord word) :
      splitOn '_' (List.intercalate ['_'] words) = words := by
    cases words with
    | nil => contradiction
    | cons first rest =>
        exact split_joined first rest fun piece member mark =>
          letter_apart ((each piece member).letters '_' mark) rfl
  rw [← cut some each, same, cut some' each']

theorem small_again {words : List (List Char)} (each : ∀ word ∈ words, IsWord word) :
    ((guardDigit (List.intercalate ['_'] words)).map Char.toUpper).map Char.toLower =
      guardDigit (List.intercalate ['_'] words) := by
  have small (c : Char) (member : c ∈ List.intercalate ['_'] words) : c.toUpper.toLower = c := by
    obtain rfl | ⟨word, listed, inside⟩ := joined_member member
    · decide
    · exact (each word listed).small c inside
  rw [List.map_map]
  refine (List.map_congr_left fun c member => ?_).trans (List.map_id _)
  cases same : List.intercalate ['_'] words with
  | nil => simp [same, guardDigit] at member
  | cons d rest =>
      rw [same] at small member
      simp only [guardDigit] at member
      split at member
      · obtain rfl | later := List.mem_cons.mp member
        · decide
        · exact small c later
      · exact small c member

-- Two texts have one name in words, whatever the case of its letters, exactly if the same words are
-- kept of them.
theorem snake_case_iff (text text' : List Char) :
    (snakeCase text).map Char.toUpper = (snakeCase text').map Char.toUpper ↔
      keptWords text = keptWords text' := by
  obtain ⟨some, each⟩ := kept_words text
  obtain ⟨some', each'⟩ := kept_words text'
  constructor
  · intro same
    have lowered := congrArg (List.map Char.toLower) same
    rw [snake_case_kept, snake_case_kept, small_again each, small_again each'] at lowered
    exact joined_injective each each' some some'
      (guard_injective (joined_front each) (joined_front each') lowered)
  · intro same
    rw [snake_case_kept, snake_case_kept, same]

end Words

end ApiSchema.Text
