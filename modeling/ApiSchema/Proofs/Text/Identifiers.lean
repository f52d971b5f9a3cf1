import ApiSchema.Text.Words
import Mathlib.Data.List.Basic

namespace ApiSchema.Text

def isWordChar (c : Char) : Bool := isLetterOrDigit c || c == '_'

def identifiers (text : String) : List String :=
  (splitOnChars (!isWordChar ·) text.toList).map String.ofList

structure IsTypeName (name : List Char) : Prop where
  filled : name ≠ []
  word : ∀ c ∈ name, isWordChar c = true
  front : name.head?.any Char.isLower = false

theorem piece_apart {isBreak : Char → Bool} {text piece : List Char}
    (member : piece ∈ splitOnChars isBreak text) : piece ≠ [] ∧ ∀ c ∈ piece, isBreak c = false := by
  induction text generalizing piece with
  | nil => cases member
  | cons c rest ih =>
      rw [splitOnChars.eq_def] at member
      by_cases broken : isBreak c
      · simp only [if_pos broken] at member
        exact ih member
      · have alone : [c] ≠ [] ∧ ∀ d ∈ [c], isBreak d = false := by simpa using broken
        simp only [if_neg broken] at member
        split at member
        · exact List.mem_singleton.mp member ▸ alone
        · split at member
          · obtain rfl | later := List.mem_cons.mp member
            · exact alone
            · exact ih later
          · split at member
            next front pieces same =>
              obtain rfl | later := List.mem_cons.mp member
              · have kept := (ih (same ▸ List.mem_cons_self)).2
                simpa using ⟨by simpa using broken, kept⟩
              · exact ih (same ▸ List.mem_cons_of_mem _ later)
            next => exact List.mem_singleton.mp member ▸ alone

theorem word_ascii {c : Char} (word : isWordChar c = true) : c.toNat < 128 := by
  change (((decide (c.val ≥ 'A'.val ∧ c.val ≤ 'Z'.val) || (c.val ≥ 'a'.val && c.val ≤ 'z'.val)) ||
    (c.val ≥ '0'.val && c.val ≤ '9'.val)) || c == '_') = true at word
  simp only [Bool.or_eq_true, Bool.and_eq_true, decide_eq_true_eq, beq_iff_eq, ge_iff_le,
    UInt32.le_iff_toNat_le] at word
  rcases word with ((⟨-, high⟩ | ⟨-, high⟩) | ⟨-, high⟩) | rfl
  · exact Nat.lt_of_le_of_lt high (by decide)
  · exact Nat.lt_of_le_of_lt high (by decide)
  · exact Nat.lt_of_le_of_lt high (by decide)
  · decide

-- What holds of the first characters by computation.
theorem word_forall (p : Char → Prop)
    (all : ∀ n < 128, isWordChar (Char.ofNat n) = true → p (Char.ofNat n)) {c : Char}
    (word : isWordChar c = true) : p c := by
  simpa using all c.toNat (word_ascii word) (by simpa using word)

theorem upper_form {c : Char} (word : isWordChar c = true) :
    isWordChar c.toUpper = true ∧ c.toUpper.isLower = false :=
  word_forall (fun c => isWordChar c.toUpper = true ∧ c.toUpper.isLower = false)
    (by decide +kernel) word

theorem capitalized_word {text : List Char} (word : ∀ c ∈ text, isWordChar c = true) :
    ∀ c ∈ capitalizeAscii text, isWordChar c = true := by
  cases text with
  | nil => exact word
  | cons c rest =>
      intro d member
      obtain rfl | later := List.mem_cons.mp member
      · exact (upper_form (word c (by simp))).1
      · exact word d (by simp [later])

theorem guarded_word {text : List Char} (filled : text ≠ []) (word : ∀ c ∈ text, isWordChar c = true) :
    guardDigit text ≠ [] ∧ ∀ c ∈ guardDigit text, isWordChar c = true := by
  cases text with
  | nil => exact absurd rfl filled
  | cons c rest =>
      simp only [guardDigit]
      split
      · refine ⟨by simp, fun d member => ?_⟩
        obtain rfl | later := List.mem_cons.mp member
        · rfl
        · exact word d later
      · exact ⟨by simp, word⟩

theorem part_word {name part : List Char} (member : part ∈ parts name) :
    part ≠ [] ∧ ∀ c ∈ part, isWordChar c = true := by
  obtain ⟨filled, kept⟩ := piece_apart member
  refine ⟨filled, fun c inside => ?_⟩
  have letter : isLetterOrDigit c = true := by simpa using kept c inside
  simp [isWordChar, letter]

theorem identifier_word (name : List Char) :
    identifier name ≠ [] ∧ ∀ c ∈ identifier name, isWordChar c = true := by
  have each (part : List Char) (member : part ∈ parts name) := part_word member
  unfold identifier
  split
  next =>
    have word : "UnnamedType".toList.all isWordChar = true := by decide
    exact ⟨by decide, List.all_eq_true.mp word⟩
  next part same =>
    obtain ⟨filled, word⟩ := each part (by simp [same])
    exact guarded_word filled word
  next several _ _ =>
    apply guarded_word
    · cases same : parts name with
      | nil => contradiction
      | cons first rest =>
          obtain ⟨filled, _⟩ := each first (by simp [same])
          cases first with
          | nil => contradiction
          | cons c more => simp [capitalizeAscii]
    · intro c member
      obtain ⟨part, listed, inside⟩ := List.mem_flatMap.mp member
      exact capitalized_word (each part listed).2 c inside

theorem type_name_form (name : List Char) : IsTypeName (typeName name) := by
  obtain ⟨filled, word⟩ := identifier_word name
  refine ⟨?_, capitalized_word word, ?_⟩
  all_goals
    unfold typeName
    cases form : identifier name with
    | nil => exact absurd form filled
    | cons c rest =>
        have first := upper_form (word c (by simp [form]))
        simp [capitalizeAscii, first.2]

-- A name stays one when more letters and digits follow.
theorem IsTypeName.append {name more : List Char} (formed : IsTypeName name)
    (word : ∀ c ∈ more, isWordChar c = true) : IsTypeName (name ++ more) := by
  obtain ⟨filled, front, head⟩ := formed
  refine ⟨by simp [filled], fun c member => ?_, ?_⟩
  · obtain first | second := List.mem_append.mp member
    · exact front c first
    · exact word c second
  · rwa [List.head?_append_of_ne_nil _ filled]

end ApiSchema.Text
