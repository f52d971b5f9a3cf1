import ApiSchema.Json.Strict
import ApiSchema.Json.Printer
import ApiSchema.Proofs.Number.Digits

namespace ApiSchema.Json

open Strict

theorem escape_cases (c : Char) :
    (∃ d, escapeChar false c = ['\\', d] ∧ d ≠ 'u' ∧ simpleEscape? d = some c) ∨
      (c.toNat < 32 ∧ escapeChar false c = unitEscape c.toNat) ∨
      (escapeChar false c = [c] ∧ c ≠ '"' ∧ c ≠ '\\' ∧ ¬ c ≤ '\x1f') := by
  unfold escapeChar
  split
  next quote => exact .inl ⟨'"', rfl, by decide, by rw [eq_of_beq quote]; rfl⟩
  split
  next backslash => exact .inl ⟨'\\', rfl, by decide, by rw [eq_of_beq backslash]; rfl⟩
  split
  next newline => exact .inl ⟨'n', rfl, by decide, by rw [eq_of_beq newline]; rfl⟩
  split
  next back => exact .inl ⟨'r', rfl, by decide, by rw [eq_of_beq back]; rfl⟩
  split
  next tab => exact .inl ⟨'t', rfl, by decide, by rw [eq_of_beq tab]; rfl⟩
  split
  next delete => exact .inl ⟨'b', rfl, by decide, by rw [eq_of_beq delete]; rfl⟩
  split
  next feed => exact .inl ⟨'f', rfl, by decide, by rw [eq_of_beq feed]; rfl⟩
  split
  next control =>
      have small : c.toNat < 32 := by simpa using control
      have unit : c.toNat < 0x10000 := by omega
      have lone : Text.isSurrogate c = false := by
        simp only [Text.isSurrogate, Bool.and_eq_false_iff, decide_eq_false_iff_not]
        omega
      have code : Text.codeOf c = c.toNat := by rw [Text.codeOf, lone]; rfl
      exact .inr (.inl ⟨small, by simp [unitEscapes, code, unit]⟩)
  next quote backslash _ _ _ _ _ plain =>
      have high : 32 ≤ c.toNat := by simpa using plain
      refine .inr (.inr ⟨rfl, by simpa using quote, by simpa using backslash, ?_⟩)
      rw [Char.le_def, UInt32.le_iff_toNat_le]
      change ¬ c.toNat ≤ 31
      omega

theorem control_digits : ∀ n < 32, (Text.hexDigits 4 n).length = 4 ∧
    fourHex? (Text.hexDigits 4 n) = some n ∧ isLowSurrogate n = false ∧
      isHighSurrogate n = false := by
  decide

theorem unit_read {n : Nat} (small : n < 32) (rest : List Char) :
    unicodeEscape (Text.hexDigits 4 n ++ rest) = .ok (Char.ofNat n, rest) := by
  obtain ⟨long, value, low, high⟩ := control_digits n small
  have first : (Text.hexDigits 4 n ++ rest).take 4 = Text.hexDigits 4 n :=
    List.take_left' long
  have after : (Text.hexDigits 4 n ++ rest).drop 4 = rest :=
    List.drop_left' long
  have number : unicodeEscape.four (Text.hexDigits 4 n ++ rest) = .ok n := by
    rw [unicodeEscape.four, first, value]
  rw [unicodeEscape, number, after]
  have code : Text.ofCode n = Char.ofNat n := by
    rw [Text.ofCode, if_neg (by simp; omega)]
  simp only [bind, Except.bind, low, high, code]
  rfl

theorem escape_read {done rest : List Char} {fuel : Nat} (c : Char) :
    Strict.string (fuel + 1) done (escapeChar false c ++ rest) =
      Strict.string fuel (c :: done) rest := by
  obtain ⟨d, written, letter, back⟩ | ⟨small, written⟩ | ⟨written, quote, backslash, high⟩ :=
    escape_cases c
  · rw [written]
    change Strict.string (fuel + 1) done ('\\' :: d :: rest) = _
    rw [Strict.string, back]
    simpa using letter
  · rw [written]
    change Strict.string (fuel + 1) done ('\\' :: 'u' :: (Text.hexDigits 4 c.toNat ++ rest)) = _
    rw [Strict.string, unit_read small, Char.ofNat_toNat]
    rfl
  · rw [written]
    change Strict.string (fuel + 1) done (c :: rest) = _
    rw [Strict.string, if_neg high]
    · exact quote
    · intro _ same _; exact absurd same backslash
    · intro same _; exact absurd same backslash
    · intro _ _ same _; exact absurd same backslash

theorem string_read {rest : List Char} (text : List Char) : ∀ {fuel : Nat} {done : List Char},
    (text.flatMap (escapeChar false)).length < fuel →
      Strict.string fuel done (text.flatMap (escapeChar false) ++ '"' :: rest) =
        .ok (String.ofList (done.reverse ++ text), rest) := by
  induction text with
  | nil =>
      intro fuel done enough
      obtain ⟨fuel, rfl⟩ : ∃ n, fuel = n + 1 := ⟨fuel - 1, by simp at enough; omega⟩
      simp [Strict.string]
  | cons c more ih =>
      intro fuel done enough
      obtain ⟨fuel, rfl⟩ : ∃ n, fuel = n + 1 := ⟨fuel - 1, by omega⟩
      have filled : 0 < (escapeChar false c).length := by
        obtain ⟨d, written, -⟩ | ⟨_, written⟩ | ⟨written, -⟩ := escape_cases c <;>
          simp [written, unitEscape]
      rw [List.flatMap_cons, List.length_append] at enough
      rw [List.flatMap_cons, List.append_assoc, escape_read, ih (by omega)]
      simp

def Few (negative : Bool) (whole : List Char) : Prop :=
  (if negative then 1 else 0) + whole.length ≤ digitLimit

theorem few_of_length {whole : List Char} (short : whole.length < digitLimit) (negative : Bool) :
    Few negative whole := by
  unfold Few
  split <;> omega

theorem number_of_parts {negative : Bool} {text left more after whole part : List Char}
    {power : Option (Bool × List Char)} (lead : leading text = .ok (whole, left))
    (few : Few negative whole) (fractional : fraction left = .ok (part, more))
    (marked : exponent more = .ok (power, after)) :
    Strict.number negative text =
      .ok ((NumberText.mk whole part power).toScalar negative, after) := by
  rw [Strict.number, lead]
  simp only [bind, Except.bind, fractional, marked]
  rw [if_neg (Nat.not_lt.mpr few)]
  rfl

theorem number_refused {negative : Bool} {text left whole : List Char}
    (lead : leading text = .ok (whole, left)) (many : ¬ Few negative whole) :
    ∃ failure, Strict.number negative text = .error failure := by
  rw [Strict.number, lead]
  simp only [bind, Except.bind]
  rw [if_pos (Nat.not_le.mp many)]
  exact ⟨_, rfl⟩

theorem number_parts {negative : Bool} {text after : List Char} {found : Scalar}
    (read : Strict.number negative text = .ok (found, after)) :
    ∃ whole part power left more, leading text = .ok (whole, left) ∧ Few negative whole ∧
      fraction left = .ok (part, more) ∧ exponent more = .ok (power, after) ∧
        found = (NumberText.mk whole part power).toScalar negative := by
  unfold Strict.number at read
  cases lead : leading text with
  | error failure => rw [lead] at read; cases read
  | ok whole =>
      rw [lead] at read
      simp only [bind, Except.bind] at read
      by_cases few : Few negative whole.1
      case neg =>
        rw [if_pos (Nat.not_le.mp few)] at read
        cases read
      rw [if_neg (Nat.not_lt.mpr few)] at read
      cases fractional : fraction whole.2 with
      | error failure =>
          rw [fractional] at read
          cases read
      | ok part =>
          simp only [fractional] at read
          cases marked : exponent part.2 with
          | error failure =>
              rw [marked] at read
              cases read
          | ok power =>
              rw [marked] at read
              cases read
              exact ⟨_, _, _, _, _, rfl, few, fractional, marked, rfl⟩

def NoDigit (rest : List Char) : Prop := ∀ c, rest.head? = some c → c.isDigit = false

def Ended (rest : List Char) : Prop :=
  ∀ c, rest.head? = some c → c.isDigit = false ∧ c ≠ '.' ∧ c ≠ 'e' ∧ c ≠ 'E'

theorem Ended.no_digit {rest : List Char} (ended : Ended rest) : NoDigit rest :=
  fun c first => (ended c first).1

theorem no_digit_nil : NoDigit [] := fun c first => by cases first

theorem no_digit_cons {c : Char} {rest : List Char} (plain : c.isDigit = false) :
    NoDigit (c :: rest) := by
  intro d first
  cases first
  exact plain

section Runs

variable {rest : List Char} (ended : NoDigit rest)

include ended

theorem span_digits_append {text found after : List Char}
    (spanned : spanDigits text = (found, after)) :
    spanDigits (text ++ rest) = (found, after ++ rest) := by
  induction text generalizing found with
  | nil =>
      cases spanned
      cases rest with
      | nil => rfl
      | cons c more =>
          have stop := ended c rfl
          simp [spanDigits, stop]
  | cons c more ih =>
      cases digit : c.isDigit with
      | false =>
          simp [spanDigits, digit] at spanned ⊢
          obtain ⟨rfl, rfl⟩ := spanned
          exact ⟨rfl, rfl⟩
      | true =>
          simp [spanDigits, digit] at spanned
          obtain ⟨rfl, rfl⟩ := spanned
          have later := ih rfl
          simp [spanDigits, digit] at later ⊢
          exact later

theorem digits_append {text found after : List Char} (read : digits text = .ok (found, after)) :
    digits (text ++ rest) = .ok (found, after ++ rest) := by
  obtain ⟨ds, left, spanned⟩ : ∃ ds left, spanDigits text = (ds, left) := ⟨_, _, rfl⟩
  rw [digits, spanned] at read
  cases ds with
  | nil => cases left <;> cases read
  | cons d more =>
      cases read
      rw [digits, span_digits_append ended spanned]

theorem leading_append {text found after : List Char} (read : leading text = .ok (found, after)) :
    leading (text ++ rest) = .ok (found, after ++ rest) := by
  unfold leading at read
  split at read
  next c more =>
      change (if c.isDigit = true then _ else _) = _
      split at read
      · cases read
      next stop =>
        rw [if_neg stop]
        cases read
        rfl
  next shape =>
      have grown := digits_append ended read
      unfold leading
      split
      next c more same =>
        -- Only a lone zero can have grown to a zero that something follows.
        have alone : text = ['0'] ∧ rest = c :: more := by
          cases text with
          | nil =>
              cases same
              have stop := ended '0' rfl
              simp at stop
          | cons d tail =>
              cases tail with
              | nil => simpa using same
              | cons e tail =>
                  cases same
                  exact (shape c tail rfl).elim
        obtain ⟨rfl, rfl⟩ := alone
        have stop := ended c rfl
        cases read
        simp [stop]
      · exact grown

theorem marked_append {negative : Bool} {text after : List Char}
    {found : Option (Bool × List Char)}
    (read : (do
      let (ds, left) ← digits text
      return (some (negative, ds), left)) = .ok (found, after)) :
    (do
      let (ds, left) ← digits (text ++ rest)
      return (some (negative, ds), left)) = (.ok (found, after ++ rest) : Step _) := by
  cases each : digits text with
  | error failure => rw [each] at read; cases read
  | ok pair =>
      rw [each] at read
      cases read
      rw [digits_append ended each]
      rfl

end Runs

section Numbers

variable {rest : List Char} (ended : Ended rest)

include ended

theorem fraction_append {text found after : List Char} (read : fraction text = .ok (found, after)) :
    fraction (text ++ rest) = .ok (found, after ++ rest) := by
  unfold fraction at read
  split at read
  next more => exact digits_append ended.no_digit read
  next shape =>
      cases read
      cases text with
      | cons c more =>
          rw [List.cons_append, fraction]
          · rfl
          · intro tail same
            cases same
            exact shape more rfl
      | nil =>
          rw [List.nil_append, fraction]
          · rfl
          · intro tail same
            exact (ended '.' (by rw [same]; rfl)).2.1 rfl

theorem exponent_append {text after : List Char} {found : Option (Bool × List Char)}
    (read : exponent text = .ok (found, after)) :
    exponent (text ++ rest) = .ok (found, after ++ rest) := by
  cases text with
  | nil =>
      cases read
      cases rest with
      | nil => rfl
      | cons c more =>
          obtain ⟨-, -, small, great⟩ := ended c rfl
          simp [exponent, small, great]
          rfl
  | cons e more =>
      unfold exponent at read ⊢
      change (if _ then _ else _) = _
      change (if _ then _ else _) = _ at read
      split at read
      next mark =>
        rw [if_pos mark]
        cases more with
        | nil => cases read
        | cons s tail =>
            by_cases minus : s = '-'
            · subst minus
              exact marked_append ended.no_digit read
            by_cases plus : s = '+'
            · subst plus
              exact marked_append ended.no_digit read
            simp [minus, plus] at read ⊢
            exact marked_append ended.no_digit read
      next plain =>
        rw [if_neg plain]
        cases read
        rfl

theorem number_append {negative : Bool} {text after : List Char} {found : Scalar}
    (read : Strict.number negative text = .ok (found, after)) :
    Strict.number negative (text ++ rest) = .ok (found, after ++ rest) := by
  obtain ⟨whole, part, power, left, more, lead, few, fractional, marked, rfl⟩ := number_parts read
  exact number_of_parts (leading_append ended.no_digit lead) few (fraction_append ended fractional)
    (exponent_append ended marked)

end Numbers

theorem digits_lead {n : Nat} (positive : 0 < n) : (Nat.toDigits 10 n).head? ≠ some '0' := by
  induction n using Nat.strongRecOn with
  | ind n ih =>
      by_cases single : n < 10
      · have each : ∀ d < 10, 0 < d → Nat.digitChar d ≠ '0' := by decide
        rw [Nat.toDigits_of_lt_base single]
        simpa using each n single positive
      · have earlier := ih (n / 10) (by omega) (by omega)
        rw [Nat.toDigits_of_base_le (by decide) (by omega)]
        cases shape : Nat.toDigits 10 (n / 10) with
        | nil => exact absurd shape Nat.toDigits_ne_nil
        | cons c more => simpa [shape] using earlier

theorem digits_all {text : List Char} (each : ∀ c ∈ text, c.isDigit = true) (filled : text ≠ []) :
    digits text = .ok (text, []) := by
  have spanned : spanDigits (text ++ []) = (text ++ [], []) := by
    rw [spanDigits, List.takeWhile_append_of_pos each, List.dropWhile_append_of_pos each]
    rfl
  rw [List.append_nil] at spanned
  rw [digits, spanned]
  cases text with
  | nil => exact absurd rfl filled
  | cons c more => rfl

theorem leading_digits (n : Nat) : leading (Nat.toDigits 10 n) = .ok (Nat.toDigits 10 n, []) := by
  have whole : digits (Nat.toDigits 10 n) = .ok (Nat.toDigits 10 n, []) :=
    digits_all (fun _ member => decimal_digit member) Nat.toDigits_ne_nil
  unfold leading
  split
  next c more shape =>
      by_cases zero : n = 0
      · subst zero
        simp at shape
      · have lead := digits_lead (n := n) (by omega)
        rw [shape] at lead
        exact absurd rfl lead
  · exact whole

theorem digits_head {text found after : List Char} (read : digits text = .ok (found, after)) :
    ∃ d more, text = d :: more ∧ d.isDigit = true := by
  cases text with
  | nil => cases read
  | cons d more =>
      cases digit : d.isDigit with
      | true => exact ⟨d, more, rfl, digit⟩
      | false => simp [digits, spanDigits, digit, Strict.fail] at read

theorem leading_head {text found after : List Char} (read : leading text = .ok (found, after)) :
    ∃ d more, text = d :: more ∧ d.isDigit = true := by
  unfold leading at read
  split at read
  next c more => exact ⟨'0', c :: more, rfl, rfl⟩
  · exact digits_head read

theorem number_head {negative : Bool} {text : List Char} {found : Scalar × List Char}
    (read : Strict.number negative text = .ok found) :
    ∃ d more, text = d :: more ∧ d.isDigit = true := by
  obtain ⟨_, _, _, _, _, lead, -⟩ := number_parts read
  exact leading_head lead

theorem integer_read (n : Nat) (negative : Bool) (few : Few negative (Nat.toDigits 10 n))
    {rest : List Char} (ended : Ended rest) :
    Strict.number negative (Nat.toDigits 10 n ++ rest) =
      .ok (.int (if negative then -(n : Int) else n), rest) := by
  have value : naturalOf (Nat.toDigits 10 n) = n := Nat.ofDigitChars_ten_toDigits
  have alone : Strict.number negative (Nat.toDigits 10 n) =
      .ok (.int (if negative then -(n : Int) else n), []) := by
    rw [number_of_parts (leading_digits n) few rfl rfl, NumberText.toScalar, value]
    rfl
  have grown := number_append ended alone
  exact grown

theorem integer_refused (n : Nat) {negative : Bool} (many : ¬ Few negative (Nat.toDigits 10 n))
    {rest : List Char} (ended : Ended rest) :
    ∃ failure, Strict.number negative (Nat.toDigits 10 n ++ rest) = .error failure :=
  number_refused (leading_append ended.no_digit (leading_digits n)) many

end ApiSchema.Json
