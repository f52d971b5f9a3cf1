import ApiSchema.Check.Moment
import ApiSchema.Proofs.Number.Digits
import Mathlib.Algebra.Group.Nat.Defs

namespace ApiSchema

structure Moment.IsUniversal (m : Moment) : Prop where
  date : m.date.isValid = true
  hour : m.hour ≤ 23
  minute : m.minute ≤ 59
  second : m.second ≤ 59
  micro : m.micro < 1000000
  offset : m.offset = some 0

namespace Check

theorem ascii_digits {text : List Char} (each : ∀ c ∈ text, c.isDigit = true) :
    text.filterMap asciiDigit? = text.map fun c => c.toNat - '0'.toNat := by
  induction text with
  | nil => rfl
  | cons c rest ih =>
      simp [asciiDigit?, each c (by simp), ih fun d member => each d (by simp [member])]

theorem padded_digit (width n : Nat) : ∀ c ∈ (padded width n).toList, c.isDigit = true := by
  intro c member
  simp only [padded, String.toList_ofList, List.mem_append, List.mem_replicate] at member
  rcases member with ⟨_, rfl⟩ | digit
  · rfl
  · exact decimal_digit digit

theorem padded_value (width n : Nat) :
    naturalOfDigits ((padded width n).toList.filterMap asciiDigit?) = n := by
  rw [ascii_digits (padded_digit width n), padded, String.toList_ofList, List.map_append, naturalOfDigits,
    List.foldl_append, List.map_replicate]
  have zeros : ∀ k, (List.replicate k ('0'.toNat - '0'.toNat)).foldl (fun n d => 10 * n + d) 0 = 0 := by
    intro k
    induction k with
    | zero => rfl
    | succ k ih => simpa [List.replicate_succ] using ih
  rw [zeros]
  exact natural_of_digits n

theorem padded_length (width : Nat) {n : Nat} (positive : 0 < width) (small : n < 10 ^ width) :
    (padded width n).toList.length = width := by
  have short := (Nat.length_toDigits_le_iff (b := 10) (by decide) positive).mpr small
  simp only [padded, String.toList_ofList, List.length_append, List.length_replicate]
  omega

theorem fixed_padded (width n : Nat) : fixedDigits? (padded width n).toList = some n := by
  have each : (padded width n).toList.all Char.isDigit = true :=
    List.all_eq_true.mpr (padded_digit width n)
  rw [fixedDigits?, if_pos each, padded_value]

theorem two_digits {n : Nat} (small : n < 100) :
    ∃ a b, (padded 2 n).toList = [a, b] ∧ fixedDigits? [a, b] = some n := by
  have long := padded_length 2 (by decide) small
  have value := fixed_padded 2 n
  match shape : (padded 2 n).toList, long with
  | [a, b], _ => exact ⟨a, b, rfl, by rw [← shape, value]⟩

theorem four_digits {n : Nat} (small : n < 10000) :
    ∃ a b c d, (padded 4 n).toList = [a, b, c, d] ∧ fixedDigits? [a, b, c, d] = some n := by
  have long := padded_length 4 (by decide) small
  have value := fixed_padded 4 n
  match shape : (padded 4 n).toList, long with
  | [a, b, c, d], _ => exact ⟨a, b, c, d, rfl, by rw [← shape, value]⟩

theorem date_read {d : Date} (valid : d.isValid = true) (rest : List Char) :
    leadingDate (d.iso.toList ++ rest) = .ok d ∧ (d.iso.toList ++ rest).drop 10 = rest := by
  obtain ⟨year, month, day⟩ := d
  simp only [Date.isValid, Bool.and_eq_true, decide_eq_true_eq] at valid
  obtain ⟨⟨⟨⟨⟨_, old⟩, january⟩, december⟩, first⟩, last⟩ := valid
  have length : Date.daysInMonth year month ≤ 31 := by
    unfold Date.daysInMonth
    by_cases february : month = 2
    · rw [if_pos february]
      split <;> decide
    · rw [if_neg february]
      split <;> decide
  obtain ⟨y1, y2, y3, y4, years, yearRead⟩ := four_digits (n := year) (by omega)
  obtain ⟨m1, m2, months, monthRead⟩ := two_digits (n := month) (by omega)
  obtain ⟨d1, d2, days, dayRead⟩ := two_digits (n := day) (by omega)
  have dash : "-".toList = ['-'] := by decide
  have written : (Date.iso ⟨year, month, day⟩).toList ++ rest =
      y1 :: y2 :: y3 :: y4 :: '-' :: m1 :: m2 :: '-' :: d1 :: d2 :: rest := by
    simp [Date.iso, String.toList_append, years, months, days, dash]
  rw [written]
  refine ⟨?_, rfl⟩
  have within : ¬ (month = 0 ∨ 12 < month) := by omega
  have inside : ¬ (day = 0 ∨ Date.daysInMonth year month < day) := by omega
  rw [leadingDate, if_neg (by simp only [List.length_cons]; omega)]
  simp [yearRead, monthRead, dayRead, within, inside]

def fractionText (micro : Nat) : List Char :=
  if micro = 0 then [] else '.' :: (padded 6 micro).toList

theorem seconds_read {second micro : Nat} (minute : second ≤ 59) (small : micro < 1000000) :
    seconds? (':' :: ((padded 2 second).toList ++ (fractionText micro ++ ['Z']))) =
      some (second, micro, ['Z']) := by
  obtain ⟨a, b, written, read⟩ := two_digits (n := second) (by omega)
  have within : ¬ 59 < second := by omega
  rw [written, fractionText]
  by_cases none : micro = 0
  · subst none
    simp [seconds?, read, within]
  · have each := padded_digit 6 micro
    have long := padded_length 6 (by decide) small
    have value := padded_value 6 micro
    rw [if_neg none]
    generalize (padded 6 micro).toList = digits at each long value
    have taken : (digits ++ ['Z']).takeWhile Char.isDigit = digits := by
      rw [List.takeWhile_append_of_pos each]
      simp
    have left : (digits ++ ['Z']).dropWhile Char.isDigit = ['Z'] := by
      rw [List.dropWhile_append_of_pos each]
      simp
    have filled : digits ≠ [] := by
      intro empty
      simp [empty] at long
    have counted : microOf digits = micro := by
      rw [microOf, List.take_append_of_le_length (by omega), List.take_of_length_le (by omega), value]
    simp [seconds?, read, within, taken, left, filled, counted]

theorem clock_read {m : Moment} (universal : m.IsUniversal) :
    timeOf? m.date (m.clock.toList ++ ['Z']) = some m := by
  obtain ⟨date, hour, minute, second, micro, offset⟩ := m
  obtain ⟨_, hours, minutes, seconds, micros, rfl⟩ := universal
  simp only at hours minutes seconds micros
  obtain ⟨h1, h2, hourText, hourRead⟩ := two_digits (n := hour) (by omega)
  obtain ⟨m1, m2, minuteText, minuteRead⟩ := two_digits (n := minute) (by omega)
  have colon : ":".toList = [':'] := by decide
  have fraction : (if micro = 0 then "" else "." ++ padded 6 micro).toList = fractionText micro := by
    have point : ".".toList = ['.'] := by decide
    unfold fractionText
    split
    · rfl
    · simp [String.toList_append, point]
  have written : (Moment.clock ⟨date, hour, minute, second, micro, some 0⟩).toList ++ ['Z'] =
      h1 :: h2 :: ':' :: m1 :: m2 :: ':' ::
        ((padded 2 second).toList ++ (fractionText micro ++ ['Z'])) := by
    simp only [Moment.clock, String.toList_append, fraction, hourText, minuteText, colon]
    simp
  rw [written, timeOf?]
  simp [hourRead, minuteRead, seconds_read seconds micros, offset?, hours, minutes]

theorem moment_read {m : Moment} (universal : m.IsUniversal) : moment (.text m.zuluText) = .ok m := by
  have zulu : m.zuluText.toList = m.date.iso.toList ++ 'T' :: (m.clock.toList ++ ['Z']) := by
    have t : "T".toList = ['T'] := by decide
    have z : "Z".toList = ['Z'] := by decide
    simp [Moment.zuluText, universal.offset, String.toList_append, t, z]
  obtain ⟨date, time⟩ := date_read universal.date ('T' :: (m.clock.toList ++ ['Z']))
  have read : dateAndTime? m.zuluText.toList = some m := by
    rw [zulu, dateAndTime?, date, time]
    simp [clock_read universal]
  rw [moment, momentOfText, read]

end Check

end ApiSchema
