import ApiSchema.Proofs.Json.Scalars
import ApiSchema.Proofs.Number.Shortest

namespace ApiSchema

def Binary64.ReadsBack (x : Binary64) : Prop :=
  ∃ text, FloatStyle.shortExponent.render? x = some text ∧
    Json.Strict.read text.toList = .ok (.float x)

namespace Json

open Strict

def Digits (text : List Char) : Prop := (∀ c ∈ text, c.isDigit = true) ∧ text ≠ []

theorem digits_of_number (n : Nat) : Digits (Nat.toDigits 10 n) :=
  ⟨fun _ member => decimal_digit member, Nat.toDigits_ne_nil⟩

theorem zeros_digit (n : Nat) : ∀ c ∈ List.replicate n '0', c.isDigit = true := by
  intro c member
  rw [(List.mem_replicate.mp member).2]
  rfl

theorem fraction_read {part rest : List Char} (each : Digits part) (ended : NoDigit rest) :
    fraction ('.' :: (part ++ rest)) = .ok (part, rest) := by
  have grown := digits_append ended (digits_all each.1 each.2)
  exact grown

theorem exponent_read {power : List Char} (each : Digits power) (down : Bool) :
    exponent ('e' :: (if down then '-' else '+') :: power) = .ok (some (down, power), []) := by
  have read := digits_all each.1 each.2
  cases down with
  | false => simp [exponent, read, Functor.map, Except.map]
  | true => simp [exponent, read, Functor.map, Except.map]

theorem leading_of_digits {text : List Char} (each : Digits text) (lead : text.head? ≠ some '0') :
    leading text = .ok (text, []) := by
  have whole := digits_all each.1 each.2
  unfold leading
  split
  next c more => exact absurd rfl lead
  · exact whole

theorem leading_before {whole rest : List Char} (ended : NoDigit rest)
    (lead : leading whole = .ok (whole, [])) : leading (whole ++ rest) = .ok (whole, rest) := by
  have grown := leading_append ended lead
  exact grown

theorem zero_digits : Digits ['0'] := ⟨by simp, by simp⟩

theorem zero_leading : leading ['0'] = .ok (['0'], []) := rfl

theorem natural_digits (n : Nat) : naturalOf (Nat.toDigits 10 n) = n := Nat.ofDigitChars_ten_toDigits

theorem natural_before_zeros (text : List Char) (n : Nat) :
    naturalOf (text ++ List.replicate n '0') = naturalOf text * tenTo n := by
  have parts := Nat.ofDigitChars_append (b := 10) (l := text) (m := List.replicate n '0') 0
  rw [Nat.ofDigitChars_replicate_zero, Nat.mul_comm] at parts
  exact parts

theorem natural_after_zeros (text : List Char) (n : Nat) :
    naturalOf (List.replicate n '0' ++ text) = naturalOf text := by
  have parts := Nat.ofDigitChars_append (b := 10) (l := List.replicate n '0') (m := text) 0
  rw [Nat.ofDigitChars_replicate_zero, Nat.mul_zero] at parts
  exact parts

def ReadsAs (text : List Char) (digits : Nat) (exponent : Int) : Prop :=
  ∀ negative, Strict.number negative text = .ok (.float (.ofDecimal negative digits exponent), [])

theorem reads_pointed {whole part : List Char} (lead : leading whole = .ok (whole, []))
    (short : whole.length < digitLimit) (each : Digits part) : ReadsAs (whole ++ '.' :: part) (naturalOf (whole ++ part)) (-part.length) := by
  intro negative
  have pointed : leading (whole ++ '.' :: part) = .ok (whole, '.' :: part) :=
    leading_before (no_digit_cons rfl) lead
  have fractional : fraction ('.' :: part) = .ok (part, []) := by
    simpa using fraction_read each no_digit_nil
  have float : (NumberText.mk whole part none).isFloat = true := by
    simp [NumberText.isFloat, each.2]
  rw [number_of_parts pointed (few_of_length short negative) fractional rfl, NumberText.toScalar, if_pos float]
  simp only [Int.zero_sub]

theorem reads_scaled {whole power : List Char} (lead : leading whole = .ok (whole, []))
    (short : whole.length < digitLimit) (each : Digits power) (down : Bool) :
    ReadsAs (whole ++ 'e' :: (if down then '-' else '+') :: power) (naturalOf whole)
      (if down then -(naturalOf power : Int) else naturalOf power) := by
  intro negative
  rw [number_of_parts (leading_before (no_digit_cons rfl) lead) (few_of_length short negative) rfl
    (exponent_read each down)]
  cases down <;> simp [NumberText.toScalar, NumberText.isFloat]

theorem reads_pointed_scaled {whole part power : List Char} (lead : leading whole = .ok (whole, []))
    (short : whole.length < digitLimit) (between : Digits part) (each : Digits power) (down : Bool) :
    ReadsAs (whole ++ '.' :: (part ++ 'e' :: (if down then '-' else '+') :: power)) (naturalOf (whole ++ part))
      ((if down then -(naturalOf power : Int) else naturalOf power) - part.length) := by
  intro negative
  rw [number_of_parts (leading_before (no_digit_cons rfl) lead) (few_of_length short negative)
    (fraction_read between (no_digit_cons rfl)) (exponent_read each down)]
  cases down <;> simp [NumberText.toScalar, NumberText.isFloat]

theorem digits_padded (width n : Nat) : Digits (FloatStyle.padLeft width (Nat.toDigits 10 n)) := by
  obtain ⟨each, filled⟩ := digits_of_number n
  refine ⟨fun c member => ?_, by simp [FloatStyle.padLeft, filled]⟩
  rcases List.mem_append.mp member with zero | digit
  · exact zeros_digit _ c zero
  · exact each c digit

theorem Digits.take {text : List Char} (each : Digits text) {n : Nat} (positive : 0 < n) :
    Digits (text.take n) := by
  refine ⟨fun c member => each.1 c (List.mem_of_mem_take member), fun empty => ?_⟩
  rcases List.take_eq_nil_iff.mp empty with none | none
  · omega
  · exact each.2 none

theorem Digits.drop {text : List Char} (each : Digits text) {n : Nat} (short : n < text.length) :
    Digits (text.drop n) := by
  refine ⟨fun c member => each.1 c (List.mem_of_mem_drop member), fun empty => ?_⟩
  have long := List.drop_eq_nil_iff.mp empty
  omega

theorem Digits.append {text more : List Char} (each : Digits text)
    (others : ∀ c ∈ more, c.isDigit = true) : Digits (text ++ more) := by
  refine ⟨fun c member => ?_, by simp [each.2]⟩
  rcases List.mem_append.mp member with first | later
  · exact each.1 c first
  · exact others c later

theorem head_append {text more : List Char} (filled : text ≠ []) :
    (text ++ more).head? = text.head? := by
  cases text with
  | nil => exact absurd rfl filled
  | cons c rest => rfl

theorem head_take {text : List Char} {n : Nat} (positive : 0 < n) :
    (text.take n).head? = text.head? := by
  obtain ⟨n, rfl⟩ : ∃ m, n = m + 1 := ⟨n - 1, by omega⟩
  cases text <;> rfl

theorem padded_value (width n : Nat) : naturalOf (FloatStyle.padLeft width (Nat.toDigits 10 n)) = n := by
  rw [FloatStyle.padLeft, natural_after_zeros, natural_digits]

theorem ReadsAs.of_eq {text : List Char} {digits digits' : Nat} {exponent exponent' : Int}
    (read : ReadsAs text digits exponent) (same : digits = digits') (shift : exponent = exponent') :
    ReadsAs text digits' exponent' := by
  rw [← same, ← shift]
  exact read

section Layout

variable {digits : List Char} (each : Digits digits) (lead : digits.head? ≠ some '0')

include each lead

theorem reads_above (n : Nat) (short : digits.length + n < digitLimit) : ReadsAs (digits ++ List.replicate n '0' ++ ['.', '0'])
    (naturalOf digits * tenTo (n + 1)) (-1) := by
  have grown := each.append (zeros_digit n)
  have read := reads_pointed (leading_of_digits grown (by rwa [head_append each.2]))
    (by simpa using short) zero_digits
  have zeros : List.replicate n '0' ++ ['0'] = List.replicate (n + 1) '0' := List.replicate_succ'.symm
  refine read.of_eq ?_ rfl
  rw [List.append_assoc, zeros, natural_before_zeros]

theorem reads_between {n : Nat} (positive : 0 < n) (short : n < digits.length)
    (few : n < digitLimit) :
    ReadsAs (digits.take n ++ '.' :: digits.drop n) (naturalOf digits) ((n : Int) - digits.length) := by
  have front := leading_of_digits (each.take positive) (by rwa [head_take positive])
  refine (reads_pointed front (by rw [List.length_take]; omega) (each.drop short)).of_eq ?_ ?_
  · rw [List.take_append_drop]
  · rw [List.length_drop]
    omega

omit lead in
theorem reads_below (n : Nat) : ReadsAs (['0', '.'] ++ List.replicate n '0' ++ digits)
    (naturalOf digits) (-(n + digits.length : Nat)) := by
  have part : Digits (List.replicate n '0' ++ digits) := by
    refine ⟨fun c member => ?_, by simp [each.2]⟩
    rcases List.mem_append.mp member with padding | digit
    · exact zeros_digit _ c padding
    · exact each.1 c digit
  have zeros : naturalOf ('0' :: (List.replicate n '0' ++ digits)) = naturalOf digits :=
    natural_after_zeros digits (n + 1)
  refine (reads_pointed zero_leading (by decide) part).of_eq zeros ?_
  rw [List.length_append, List.length_replicate]

end Layout

-- The point of a scaled number stands behind its first digit, and is left out when that is the only
-- one.
theorem reads_scientific {power : List Char} (scale : Digits power) (down : Bool) :
    ∀ {digits : List Char}, Digits digits → digits.head? ≠ some '0' →
      ReadsAs ((match digits with
          | [only] => [only]
          | first :: rest => first :: '.' :: rest
          | [] => []) ++ (['e', if down then '-' else '+'] ++ power)) (naturalOf digits)
        ((if down then -(naturalOf power : Int) else naturalOf power) - (digits.length - 1 : Nat)) := by
  intro digits each lead
  cases digits with
  | nil => exact absurd rfl each.2
  | cons first rest =>
      have alone : leading [first] = .ok ([first], []) :=
        leading_of_digits ⟨by simpa using each.1 first (by simp), by simp⟩ (by simpa using lead)
      cases rest with
      | nil => exact (reads_scaled alone (by simp [digitLimit]) scale down).of_eq rfl (by simp)
      | cons second more =>
          have between : Digits (second :: more) :=
            ⟨fun c member => each.1 c (List.mem_cons_of_mem first member), by simp⟩
          simpa using reads_pointed_scaled alone (by simp [digitLimit]) between scale down

theorem scale_read (position : Int) {scale : List Char} (size : naturalOf scale = position.natAbs) :
    (if decide (position < 0) then -(naturalOf scale : Int) else naturalOf scale) = position := by
  by_cases down : position < 0
  · rw [decide_eq_true down, if_pos rfl]
    omega
  · rw [decide_eq_false down, if_neg (by decide)]
    omega

theorem mark_signed (position : Int) :
    (if position < 0 then ['e', '-'] else FloatStyle.shortExponent.mark.toList) =
      ['e', if decide (position < 0) then '-' else '+'] := by
  by_cases down : position < 0 <;> simp [down, FloatStyle.shortExponent]

-- A text in positional notation may have zeros before its point that are no digits of the decimal.
theorem rendered_reads {d : Decimal} (filled : d.digits ≠ 0) :
    ∃ k ≤ 16, ReadsAs (FloatStyle.shortExponent.renderDecimal d) (d.digits * tenTo k) (d.exponent - k) := by
  have each := digits_of_number d.digits
  have value := natural_digits d.digits
  have lead : (Nat.toDigits 10 d.digits).head? ≠ some '0' := digits_lead (Nat.pos_of_ne_zero filled)
  unfold FloatStyle.renderDecimal FloatStyle.digitChars
  generalize Nat.toDigits 10 d.digits = digits at each value lead
  have long : 0 < digits.length := List.length_pos_iff.mpr each.2
  have whole : naturalOf digits = d.digits * tenTo 0 := value.trans (Nat.mul_one _).symm
  simp only
  rw [if_neg filled]
  generalize place : (digits.length : Int) + d.exponent - 1 = position
  by_cases within : FloatStyle.shortExponent.least ≤ position ∧
      position < FloatStyle.shortExponent.limit
  · rw [if_pos within]
    have limit : position < 16 := within.2
    by_cases above : 0 ≤ d.exponent
    · rw [if_pos above]
      exact ⟨d.exponent.toNat + 1, by omega,
        (reads_above each lead d.exponent.toNat (by unfold digitLimit; omega)).of_eq
          (by rw [value]) (by omega)⟩
    rw [if_neg above]
    by_cases pointed : 0 ≤ position
    · rw [if_pos pointed]
      exact ⟨0, by omega, (reads_between each lead (by omega) (by omega)
        (by unfold digitLimit; omega)).of_eq whole (by omega)⟩
    · rw [if_neg pointed]
      exact ⟨0, by omega, (reads_below each (position.natAbs - 1)).of_eq whole (by omega)⟩
  · rw [if_neg within, mark_signed]
    have power := digits_padded FloatStyle.shortExponent.exponentWidth position.natAbs
    have size := padded_value FloatStyle.shortExponent.exponentWidth position.natAbs
    have shift : position - (digits.length - 1 : Nat) = d.exponent - (0 : Nat) := by omega
    refine ⟨0, by omega, ?_⟩
    rw [List.append_assoc]
    exact (reads_scientific power (decide (position < 0)) each lead).of_eq whole
      (by rw [scale_read position size, shift])

theorem value_of_number (depth fuel : Nat) {text after : List Char} {found : Scalar}
    (read : Strict.number false text = .ok (found, after)) :
    Strict.value depth (fuel + 1) text = .ok (.scalar found, after) := by
  obtain ⟨d, more, rfl, digit⟩ := number_head read
  have known := digit_listed digit
  simp only [decimalDigits, List.mem_cons, List.not_mem_nil, or_false] at known
  rcases known with rfl | rfl | rfl | rfl | rfl | rfl | rfl | rfl | rfl | rfl <;>
    simp [Strict.value, read, Functor.map, Except.map]

theorem value_of_negative (depth fuel : Nat) {text after : List Char} {found : Scalar}
    (read : Strict.number true text = .ok (found, after)) :
    Strict.value depth (fuel + 1) ('-' :: text) = .ok (.scalar found, after) := by
  obtain ⟨d, more, rfl, digit⟩ := number_head read
  have letter : d ≠ 'I' := fun same => by simp [same] at digit
  simp [Strict.value, letter, read, Functor.map, Except.map]

theorem signed_value {negative : Bool} {body after : List Char} {found : Scalar} {depth fuel : Nat}
    (read : Strict.number negative body = .ok (found, after)) :
    Strict.value depth (fuel + 1) (if negative then '-' :: body else body) =
      .ok (.scalar found, after) := by
  cases negative with
  | false => exact value_of_number depth fuel read
  | true => exact value_of_negative depth fuel read

theorem signed_stuck {negative : Bool} {body : List Char} {failure : Strict.Failure} {depth fuel : Nat}
    (digit : ∃ d more, body = d :: more ∧ d.isDigit = true)
    (failed : Strict.number negative body = .error failure) :
    Strict.value depth (fuel + 1) (if negative then '-' :: body else body) = .error failure := by
  obtain ⟨d, more, rfl, digit⟩ := digit
  have known := digit_listed digit
  simp only [decimalDigits, List.mem_cons, List.not_mem_nil, or_false] at known
  cases negative with
  | false =>
      rcases known with rfl | rfl | rfl | rfl | rfl | rfl | rfl | rfl | rfl | rfl <;>
        simp [Strict.value, failed, Functor.map, Except.map]
  | true =>
      have letter : d ≠ 'I' := fun same => by simp [same] at digit
      simp [Strict.value, letter, failed, Functor.map, Except.map]

theorem decimal_text (n : Int) : (decimalText n).toList =
    if decide (n < 0) then '-' :: Nat.toDigits 10 n.natAbs else Nat.toDigits 10 n.natAbs := by
  unfold decimalText
  by_cases negative : n < 0 <;> simp [negative]

theorem few_iff (n : Int) : Few (decide (n < 0)) (Nat.toDigits 10 n.natAbs) ↔
    (decimalText n).toList.length ≤ digitLimit := by
  rw [decimal_text, Few]
  by_cases negative : n < 0
  · simp [negative, Nat.add_comm]
  · simp [negative]

theorem signed_append {negative : Bool} {body rest : List Char} :
    (if negative then '-' :: body else body) ++ rest =
      if negative then '-' :: (body ++ rest) else body ++ rest := by
  cases negative <;> rfl

section Integers

variable {depth fuel : Nat} {rest : List Char} {n : Int} (ended : Ended rest)

include ended

theorem integer_value (short : (decimalText n).toList.length ≤ digitLimit) :
    Strict.value depth (fuel + 1) ((decimalText n).toList ++ rest) = .ok (.int n, rest) := by
  have read := integer_read n.natAbs (decide (n < 0)) ((few_iff n).mpr short) ended
  have size : (if decide (n < 0) = true then -(n.natAbs : Int) else n.natAbs) = n := by
    split
    next negative => have := of_decide_eq_true negative; omega
    next positive => simp only [decide_eq_true_eq] at positive; omega
  rw [size] at read
  rw [decimal_text, signed_append]
  exact signed_value read

theorem integer_stuck (long : digitLimit < (decimalText n).toList.length) :
    ∃ failure, Strict.value depth (fuel + 1) ((decimalText n).toList ++ rest) = .error failure := by
  obtain ⟨failure, failed⟩ := integer_refused n.natAbs
    (fun few => absurd ((few_iff n).mp few) (Nat.not_le.mpr long)) ended
  obtain ⟨each, filled⟩ := digits_of_number n.natAbs
  refine ⟨failure, ?_⟩
  rw [decimal_text, signed_append]
  refine signed_stuck ?_ failed
  cases digits : Nat.toDigits 10 n.natAbs with
  | nil => exact absurd digits filled
  | cons d more => exact ⟨d, more ++ rest, rfl, each d (by simp [digits])⟩

end Integers

theorem signed_starts {negative : Bool} {body : List Char} {found : Scalar × List Char}
    (read : Strict.number negative body = .ok found) :
    Strict.skip (if negative then '-' :: body else body) = if negative then '-' :: body else body := by
  obtain ⟨d, more, rfl, digit⟩ := number_head read
  have dark : isSpace d = false := by
    have each : decimalDigits.all (fun c => !isSpace c) = true := by decide
    simpa using List.all_eq_true.mp each d (digit_listed digit)
  cases negative with
  | false => simp [Strict.skip, dark]
  | true => rfl

theorem finite_read {x : Binary64} {negative : Bool} {significand : Nat} {exponent : Int}
    (finite : x.shape = .finite negative significand exponent) :
    Strict.number negative (FloatStyle.shortExponent.renderDecimal (.shortest significand exponent)) =
      .ok (.float x, []) := by
  by_cases zero : (Decimal.shortest significand exponent).digits = 0
  · have rendered :
        FloatStyle.shortExponent.renderDecimal (.shortest significand exponent) = ['0', '.', '0'] := by
      unfold FloatStyle.renderDecimal
      simp only
      rw [if_pos zero]
    have back := Decimal.shortest_reads finite (Nat.zero_le 16)
    rw [zero, Nat.zero_mul, Binary64.of_decimal_zero] at back
    rw [rendered, ← back, ← Binary64.of_decimal_zero negative (-1)]
    exact reads_pointed zero_leading (by decide) zero_digits negative
  · obtain ⟨k, few, read⟩ := rendered_reads zero
    rw [read negative, Decimal.shortest_reads finite few]

theorem finite_shape {x : Binary64} (finite : x.isFinite = true) :
    ∃ negative significand exponent, x.shape = .finite negative significand exponent := by
  unfold Binary64.isFinite at finite
  cases shape : x.shape with
  | finite negative significand exponent => exact ⟨_, _, _, rfl⟩
  | infinite negative =>
      rw [shape] at finite
      cases finite
  | nan =>
      rw [shape] at finite
      cases finite

theorem finite_text {x : Binary64} (finite : x.isFinite = true) :
    ∃ negative body, FloatStyle.shortExponent.render? x =
      some (String.ofList (if negative then '-' :: body else body)) ∧
        Strict.number negative body = .ok (.float x, []) := by
  obtain ⟨negative, significand, exponent, shape⟩ := finite_shape finite
  refine ⟨negative, _, ?_, finite_read shape⟩
  rw [FloatStyle.render?, shape]

end Json

-- Every finite number comes back from its text.
theorem reads_back_iff {x : Binary64} : x.ReadsBack ↔ x.isFinite = true := by
  constructor
  · rintro ⟨text, printed, -⟩
    unfold FloatStyle.render? at printed
    cases shape : x.shape with
    | finite negative significand exponent => rw [Binary64.isFinite, shape]
    | infinite negative =>
        rw [shape] at printed
        cases printed
    | nan =>
        rw [shape] at printed
        cases printed
  · intro finite
    obtain ⟨negative, body, printed, read⟩ := Json.finite_text finite
    refine ⟨_, printed, ?_⟩
    rw [String.toList_ofList, Json.Strict.read, Json.Strict.readRest, Json.signed_starts read,
      Json.signed_value read]
    rfl

namespace Json

theorem float_value {x : Binary64} (back : x.ReadsBack) {depth fuel : Nat} {rest : List Char}
    (ended : Ended rest) {indent : Option Nat} :
    Strict.value depth (fuel + 1) ((Style.canonical indent).float x ++ rest) =
      .ok (.float x, rest) := by
  obtain ⟨negative, body, printed, read⟩ := finite_text (reads_back_iff.mp back)
  have written : (Style.canonical indent).float x = if negative then '-' :: body else body := by
    simp [Style.float, Style.canonical, printed]
  have grown := number_append ended read
  rw [written]
  cases negative with
  | false => exact value_of_number depth fuel grown
  | true => exact value_of_negative depth fuel grown

end Json

end ApiSchema
