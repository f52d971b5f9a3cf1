import ApiSchema.Number.Reading

namespace ApiSchema

def decimalDigits : List Char := ['0', '1', '2', '3', '4', '5', '6', '7', '8', '9']

theorem digit_listed {c : Char} (digit : c.isDigit) : c ∈ decimalDigits := by
  have bounds : 48 ≤ c.toNat ∧ c.toNat ≤ 57 := by
    simpa [Char.isDigit, UInt32.le_iff_toNat_le] using digit
  have all : ∀ n, n < 58 → 48 ≤ n → Char.ofNat n ∈ decimalDigits := by decide
  simpa using all c.toNat (by omega) bounds.1

-- With ten cases, whatever is asked of a digit is decided by looking at each.
theorem digit_not_blank {c : Char} (digit : c.isDigit) : Text.isBlank c = false := by
  have all : decimalDigits.all (fun d => !Text.isBlank d) = true := by decide
  simpa using List.all_eq_true.mp all c (digit_listed digit)

theorem digit_no_sign {c : Char} (digit : c.isDigit) : c ≠ '-' ∧ c ≠ '+' ∧ c ≠ '_' := by
  have all : decimalDigits.all (fun d => d ≠ '-' ∧ d ≠ '+' ∧ d ≠ '_') = true := by decide
  simpa using List.all_eq_true.mp all c (digit_listed digit)

theorem decimal_value_digit {c : Char} (digit : c.isDigit) :
    Text.decimalValue? c = some (c.toNat - '0'.toNat) := by
  simp [Text.decimalValue?, digit]

theorem decimal_digit {n : Nat} {c : Char} (member : c ∈ Nat.toDigits 10 n) : c.isDigit :=
  Nat.isDigit_of_mem_toDigits (by decide) (by decide) member

theorem grouped_digits {digit? : Char → Option Nat} {value : Char → Nat} {text : List Char}
    (each : ∀ c ∈ text, digit? c = some (value c)) (plain : '_' ∉ text) (filled : text ≠ []) :
    groupedDigits? digit? text = some (text.map value) := by
  induction text with
  | nil => exact absurd rfl filled
  | cons c rest ih =>
      have first := each c (by simp)
      cases rest with
      | nil => simp [groupedDigits?, first]
      | cons d more =>
          have later := ih (fun e member => each e (by simp [member]))
            (fun underscore => plain (by simp [underscore])) (by simp)
          have separate : d ≠ '_' := fun underscore => plain (by simp [underscore])
          rw [groupedDigits?]
          · simp [first, later]
          · simp
          · simp [separate]

theorem natural_of_digits (n : Nat) :
    naturalOfDigits ((Nat.toDigits 10 n).map fun c => c.toNat - '0'.toNat) = n := by
  rw [naturalOfDigits, List.foldl_map]
  exact Nat.ofDigitChars_ten_toDigits

theorem trim_none {drop : Char → Bool} {text : List Char} (keep : ∀ c ∈ text, drop c = false) :
    Text.trimBy drop text = text := by
  have kept (l : List Char) (all : ∀ c ∈ l, drop c = false) : l.dropWhile drop = l := by
    cases l with
    | nil => rfl
    | cons c rest => rw [List.dropWhile_cons, all c (by simp)]; rfl
  rw [Text.trimBy, kept text keep, kept text.reverse (by simpa using keep), List.reverse_reverse]

theorem integer_of_digits (n : Nat) : integerOf? (Nat.toDigits 10 n) = some (n : Int) := by
  have trimmed : Text.trim (Nat.toDigits 10 n) = Nat.toDigits 10 n :=
    trim_none fun _ member => digit_not_blank (decimal_digit member)
  have unsigned : splitSign (Nat.toDigits 10 n) = (false, Nat.toDigits 10 n) := by
    generalize made : Nat.toDigits 10 n = text
    cases text with
    | nil => rfl
    | cons c rest =>
        obtain ⟨minus, plus, -⟩ := digit_no_sign (decimal_digit (n := n) (c := c) (by simp [made]))
        rw [splitSign] <;> simp [minus, plus]
  have grouped : groupedDigits? Text.decimalValue? (Nat.toDigits 10 n) =
      some ((Nat.toDigits 10 n).map fun c => c.toNat - '0'.toNat) :=
    grouped_digits (fun _ member => decimal_value_digit (decimal_digit member))
      Nat.underscore_not_in_toDigits Nat.toDigits_ne_nil
  rw [integerOf?, trimmed, unsigned]
  simp only [grouped, Option.map_some, signed, natural_of_digits]
  rfl

end ApiSchema
