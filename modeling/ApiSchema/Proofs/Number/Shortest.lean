import ApiSchema.Number.Shortest
import ApiSchema.Proofs.Number.Rounding

namespace ApiSchema

open Binary64

theorem logs_close : ∀ n < 1100,
    10 ^ (n * 30103 / 100000) ≤ 5 * 2 ^ n ∧ 2 ^ n ≤ 50 * 10 ^ (n * 30103 / 100000) ∧
      2 ^ n ≤ 5 * 10 ^ ((n * 30103 + 99999) / 100000) ∧ 10 ^ ((n * 30103 + 99999) / 100000) ≤ 50 * 2 ^ n := by
  decide +kernel

-- The power of ten that is guessed from a power of two.
theorem power_guess {d : Int} (near : d.natAbs < 1100) :
    (10 : ℚ) ^ (d * 30103 / 100000) ≤ 5 * 2 ^ d ∧ (2 : ℚ) ^ d ≤ 50 * 10 ^ (d * 30103 / 100000) := by
  obtain ⟨n, rfl | rfl⟩ := d.eq_nat_or_neg
  · obtain ⟨least, most, -⟩ := logs_close n (by omega)
    have guess : (n : Int) * 30103 / 100000 = ((n * 30103 / 100000 : Nat) : Int) := by omega
    rw [guess, zpow_natCast, zpow_natCast]
    exact ⟨by exact_mod_cast least, by exact_mod_cast most⟩
  · obtain ⟨-, -, least, most⟩ := logs_close n (by omega)
    have guess : -(n : Int) * 30103 / 100000 = -(((n * 30103 + 99999) / 100000 : Nat) : Int) := by omega
    have ten : (0 : ℚ) < 10 ^ ((n * 30103 + 99999) / 100000) := by positivity
    have two : (0 : ℚ) < 2 ^ n := by positivity
    rw [guess, zpow_neg, zpow_neg, zpow_natCast, zpow_natCast, ← div_eq_mul_inv, ← div_eq_mul_inv]
    constructor
    · rw [inv_le_comm₀ ten (by positivity), inv_div, div_le_iff₀ (by norm_num), mul_comm _ (5 : ℚ)]
      exact_mod_cast least
    · rw [inv_le_comm₀ two (by positivity), inv_div, div_le_iff₀ (by norm_num), mul_comm _ (50 : ℚ)]
      exact_mod_cast most

theorem zpow_ten_lt {a b : Int} : (10 : ℚ) ^ a < 10 ^ b ↔ a < b := zpow_lt_zpow_iff_right₀ (by norm_num)

namespace Decimal

def value (d : Decimal) : ℚ := d.digits * 10 ^ d.exponent

theorem interval_parts (m : Nat) (e : Int) : ∃ up down : Nat, 0 < down ∧ (up : ℚ) = 2 ^ e * down ∧
    Interval.of m e = { low := (4 * m - (if Narrow m e then 1 else 2)) * up, value := 4 * m * up,
                        high := (4 * m + 2) * up, den := 4 * down, closed := decide (m % 2 = 0) } := by
  by_cases below : e < 0
  · refine ⟨1, twoTo e.natAbs, two_to_pos _, ?_, ?_⟩
    · rw [two_to_cast, power_below below, ← zpow_add₀ (by norm_num)]
      simp
    · simp only [Interval.of, if_pos below]
      rfl
  · refine ⟨twoTo e.natAbs, 1, by decide, ?_, ?_⟩
    · rw [two_to_cast, power_above below]
      simp
    · simp only [Interval.of, if_neg below]
      rfl

theorem interval_value {m : Nat} {e : Int} :
    ((Interval.of m e).value / (Interval.of m e).den : ℚ) = m * 2 ^ e ∧ 0 < (Interval.of m e).den := by
  obtain ⟨up, down, positive, ratio, parts⟩ := interval_parts m e
  have divisor : (down : ℚ) ≠ 0 := by exact_mod_cast positive.ne'
  rw [parts]
  refine ⟨?_, by simp only; omega⟩
  push_cast
  rw [ratio]
  field_simp

-- Both sides of the comparisons are multiplied by a power of ten, so that they are of natural numbers.
theorem holds_scaled (i : Interval) (d : Decimal) : ∃ point unit : Nat, 0 < unit ∧
    (point : ℚ) = d.value * i.den * unit ∧ i.holds d =
      if i.closed then decide (i.low * unit ≤ point) && decide (point ≤ i.high * unit)
      else decide (i.low * unit < point) && decide (point < i.high * unit) := by
  by_cases below : d.exponent < 0
  · refine ⟨d.digits * i.den, tenTo d.exponent.natAbs, ten_to_pos _, ?_, ?_⟩
    · have step : (0 : ℚ) < 10 ^ d.exponent := by positivity
      push_cast
      rw [ten_to_cast, power_below below, value, zpow_neg]
      field_simp
    · simp only [Interval.holds, if_pos below]
  · refine ⟨d.digits * i.den * tenTo d.exponent.natAbs, 1, by decide, ?_, ?_⟩
    · push_cast
      rw [ten_to_cast, power_above below, value]
      ring
    · simp only [Interval.holds, if_neg below]

theorem interval_rounds {m : Nat} {e : Int} (some : 0 < m) (d : Decimal) :
    (Interval.of m e).holds d = true ↔ Rounds m e d.value := by
  obtain ⟨up, down, positive, ratio, parts⟩ := interval_parts m e
  obtain ⟨point, unit, filled, scaled, held⟩ := holds_scaled (Interval.of m e) d
  have divisor : (0 : ℚ) < down * unit := by exact_mod_cast Nat.mul_pos positive filled
  rw [parts] at scaled
  have least : (((4 * m - (if Narrow m e then 1 else 2)) * up * unit : Nat) : ℚ) =
      (4 * m - (if Narrow m e then 1 else 2)) * 2 ^ e * (down * unit) := by
    rw [Nat.cast_mul, Nat.cast_mul, Nat.cast_sub (by split <;> omega), ratio]
    push_cast
    ring
  have most : (((4 * m + 2) * up * unit : Nat) : ℚ) = (4 * m + 2) * 2 ^ e * (down * unit) := by
    push_cast
    rw [ratio]
    ring
  have point_ : (point : ℚ) = 4 * d.value * (down * unit) := by
    rw [scaled]
    push_cast
    ring
  rw [held, parts]
  by_cases even : m % 2 = 0
  · simp only [even, decide_true, if_true, Bool.and_eq_true, decide_eq_true_eq]
    rw [← Nat.cast_le (α := ℚ), ← Nat.cast_le (α := ℚ), least, most, point_,
      mul_le_mul_iff_of_pos_right divisor, mul_le_mul_iff_of_pos_right divisor]
    exact ⟨fun near => ⟨near.1, near.2, fun odd => by omega⟩, fun rounds => ⟨rounds.low, rounds.high⟩⟩
  · simp only [even, decide_false, Bool.false_eq_true, if_false, Bool.and_eq_true, decide_eq_true_eq]
    rw [← Nat.cast_lt (α := ℚ), ← Nat.cast_lt (α := ℚ), least, most, point_,
      mul_lt_mul_iff_of_pos_right divisor, mul_lt_mul_iff_of_pos_right divisor]
    exact ⟨fun near => ⟨near.1.le, near.2.le, fun _ => near⟩, fun rounds => rounds.odd (by omega)⟩

theorem reaches_iff {num den : Nat} (divisor : 0 < den) (p : Int) :
    (if p < 0 then decide (den ≤ num * tenTo p.natAbs) else decide (den * tenTo p.natAbs ≤ num)) = true ↔
      (10 : ℚ) ^ p ≤ num / den := by
  have positive : (0 : ℚ) < den := by exact_mod_cast divisor
  have step : (0 : ℚ) < 10 ^ p := by positivity
  by_cases below : p < 0
  · rw [if_pos below, decide_eq_true_eq, ← Nat.cast_le (α := ℚ), Nat.cast_mul, ten_to_cast, power_below below,
      zpow_neg, ← div_eq_mul_inv, le_div_iff₀ step, le_div_iff₀ positive, mul_comm]
  · rw [if_neg below, decide_eq_true_eq, ← Nat.cast_le (α := ℚ), Nat.cast_mul, ten_to_cast, power_above below,
      le_div_iff₀ positive, mul_comm]

theorem leading_position {num den : Nat} (some : 0 < num) (divisor : 0 < den)
    (least : 2 ^ (-1074 : Int) ≤ (num / den : ℚ)) (most : (num / den : ℚ) < 2 ^ (1024 : Int)) :
    10 ^ leadingPosition num den ≤ (num / den : ℚ) ∧ (num / den : ℚ) < 10 ^ (leadingPosition num den + 1) := by
  obtain ⟨low, high⟩ := quotient_log some divisor
  unfold leadingPosition
  simp only [reaches_iff divisor]
  generalize (num.log2 : Int) - den.log2 = d at low high ⊢
  have near : d.natAbs < 1100 := by
    have above : (2 : ℚ) ^ (-1074 : Int) < 2 ^ (d + 1) := by
      rw [zpow_add_one₀ (by norm_num)]
      linarith
    have below : (2 : ℚ) ^ d < 2 ^ (1024 + 1 : Int) := by
      rw [zpow_add_one₀ (by norm_num)]
      linarith
    have := zpow_two_lt.mp above
    have := zpow_two_lt.mp below
    omega
  obtain ⟨least, most⟩ := power_guess near
  generalize d * 30103 / 100000 = g at least most ⊢
  have second : (10 : ℚ) ^ (g + 1 + 1) = 100 * 10 ^ g := by
    rw [zpow_add_one₀ (by norm_num), zpow_add_one₀ (by norm_num)]
    ring
  have first : (10 : ℚ) ^ (g - 1) = 10 ^ g / 10 := zpow_sub_one₀ (by norm_num) g
  by_cases one : (10 : ℚ) ^ (g + 1) ≤ num / den
  · rw [if_pos one, second]
    exact ⟨one, by linarith⟩
  rw [if_neg one]
  by_cases two : (10 : ℚ) ^ g ≤ num / den
  · rw [if_pos two]
    exact ⟨two, not_le.mp one⟩
  · rw [if_neg two, sub_add_cancel, first]
    exact ⟨by linarith, not_le.mp two⟩

-- The candidates are as near as can be on their grid, or the next.
theorem candidates_near {i : Interval} (divisor : 0 < i.den) (p : Int) (count : Nat) :
    ∃ near far : Nat, candidates i p count = [⟨near, p + 1 - count⟩, ⟨far, p + 1 - count⟩] ∧
      2 * (i.value / i.den : ℚ) ≤ (2 * near + 1) * 10 ^ (p + 1 - count) ∧
        (2 * near - 1) * 10 ^ (p + 1 - count) ≤ 2 * (i.value / i.den : ℚ) := by
  unfold candidates
  generalize p + 1 - (count : Int) = e
  simp only
  have step : (0 : ℚ) < 10 ^ e := by positivity
  -- The value counted in grid steps.
  have counted : (i.value / i.den : ℚ) = ((if e < 0 then i.value * tenTo e.natAbs else i.value : Nat) /
      (if e < 0 then i.den else i.den * tenTo e.natAbs : Nat)) * 10 ^ e := by
    by_cases below : e < 0
    · rw [if_pos below, if_pos below, Nat.cast_mul, ten_to_cast, power_below below, zpow_neg]
      field_simp
    · rw [if_neg below, if_neg below, Nat.cast_mul, ten_to_cast, power_above below]
      field_simp
  have positive : 0 < (if e < 0 then i.den else i.den * tenTo e.natAbs) := by
    split
    · exact divisor
    · exact Nat.mul_pos divisor (ten_to_pos _)
  rw [counted]
  generalize (if e < 0 then i.value * tenTo e.natAbs else i.value) = num
  generalize (if e < 0 then i.den else i.den * tenTo e.natAbs) = den at positive ⊢
  have small := Nat.mod_lt num positive
  have parts := Nat.div_add_mod num den
  generalize num / den = below at parts ⊢
  generalize num % den = rest at small parts ⊢
  have within {near : Nat} (least : 2 * num ≤ (2 * near + 1) * den) (most : 2 * near * den ≤ 2 * num + den) :
      2 * (num / den * 10 ^ e : ℚ) ≤ (2 * near + 1) * 10 ^ e ∧
        (2 * near - 1) * 10 ^ e ≤ 2 * (num / den * 10 ^ e : ℚ) := by
    have divisor : (0 : ℚ) < den := by exact_mod_cast positive
    have least' : (2 * num : ℚ) ≤ (2 * near + 1) * den := by exact_mod_cast least
    have most' : (2 * near * den : ℚ) ≤ 2 * num + den := by exact_mod_cast most
    rw [← mul_assoc, ← mul_div_assoc]
    constructor
    · apply mul_le_mul_of_nonneg_right _ step.le
      rw [div_le_iff₀ divisor]
      exact least'
    · apply mul_le_mul_of_nonneg_right _ step.le
      rw [le_div_iff₀ divisor]
      linarith
  by_cases lower : (decide (2 * rest < den) || decide (2 * rest = den) && decide (below % 2 = 0)) = true
  · rw [if_pos lower]
    simp only [Bool.or_eq_true, Bool.and_eq_true, decide_eq_true_eq] at lower
    have half : 2 * rest ≤ den := by omega
    exact ⟨below, below + 1, rfl, within (by linarith) (by linarith)⟩
  · rw [if_neg lower]
    simp only [Bool.or_eq_true, Bool.and_eq_true, decide_eq_true_eq] at lower
    have half : den ≤ 2 * rest := by omega
    exact ⟨below + 1, below, rfl, within (by linarith) (by linarith)⟩

-- Half a step of a grid of seventeen digits is less than half the way to the next number.
theorem near_rounds {m : Nat} {e : Int} (normal : Normal m e) {unit q : ℚ} (fine : unit * 10 ^ 16 ≤ m * 2 ^ e)
    (least : 2 * (m * 2 ^ e : ℚ) ≤ 2 * q + unit) (most : 2 * q - unit ≤ 2 * (m * 2 ^ e : ℚ)) :
    Rounds m e q := by
  have step : (0 : ℚ) < 2 ^ e := by positivity
  have strict : (4 * m - (if Narrow m e then 1 else 2)) * 2 ^ e < 4 * q ∧ 4 * q < (4 * (m : ℚ) + 2) * 2 ^ e := by
    have short : (m : ℚ) * 2 ^ e ≤ 2 ^ 53 * 2 ^ e :=
      mul_le_mul_of_nonneg_right (by exact_mod_cast normal.short.le) step.le
    refine ⟨?_, by linarith⟩
    by_cases narrow : Narrow m e
    · rw [if_pos narrow]
      have first : (m : ℚ) = 2 ^ 52 := by exact_mod_cast narrow.1
      rw [first] at least fine ⊢
      linarith
    · rw [if_neg narrow]
      linarith
  exact ⟨strict.1.le, strict.2.le, fun _ => strict⟩

theorem search_found {i : Interval} {p : Int} {count : Nat} {d : Decimal} (fuel : Nat)
    (found : (candidates i p count).find? i.holds = some d) : search i p count (fuel + 1) = d := by
  rw [search, found]

theorem search_on {i : Interval} {p : Int} {count : Nat} (fuel : Nat)
    (missed : (candidates i p count).find? i.holds = none) :
    search i p count (fuel + 1) = search i p (count + 1) fuel := by
  rw [search, missed]

theorem search_rounds {m : Nat} {e : Int} (normal : Normal m e) {p : Int} (lead : 10 ^ p ≤ (m * 2 ^ e : ℚ)) :
    ∀ fuel count, count + (fuel + 1) = 18 → Rounds m e (search (Interval.of m e) p count (fuel + 1)).value ∧
      p - 16 ≤ (search (Interval.of m e) p count (fuel + 1)).exponent := by
  intro fuel
  obtain ⟨same, divisor⟩ := interval_value (m := m) (e := e)
  have hit {count : Nat} {d : Decimal}
      (found : (candidates (Interval.of m e) p count).find? (Interval.of m e).holds = some d) (few : count ≤ 17) : Rounds m e d.value ∧ p - 16 ≤ d.exponent := by
    refine ⟨(interval_rounds normal.some d).mp (List.find?_some found), ?_⟩
    obtain ⟨near, far, both, -⟩ := candidates_near divisor p count
    have member := List.mem_of_find?_eq_some found
    rw [both, List.mem_pair] at member
    rcases member with rfl | rfl <;> simp only <;> omega
  -- The last grid is fine enough, so what is left of the fuel is enough.
  induction fuel with
  | zero =>
      intro count last
      obtain rfl : count = 17 := by omega
      cases found : (candidates (Interval.of m e) p 17).find? (Interval.of m e).holds with
      | some d =>
          rw [search_found 0 found]
          exact hit found (by omega)
      | none =>
          obtain ⟨near, far, both, least, most⟩ := candidates_near divisor p 17
          rw [both] at found
          have missed := List.find?_eq_none.mp found ⟨near, _⟩ (List.mem_cons_self ..)
          have exponent : p + 1 - (17 : Nat) = p - 16 := by omega
          rw [exponent] at least most missed
          have fine : (10 : ℚ) ^ (p - 16) * 10 ^ 16 ≤ m * 2 ^ e := by
            rw [← zpow_natCast, ← zpow_add₀ (by norm_num)]
            simpa using lead
          rw [same] at least most
          refine absurd ((interval_rounds normal.some _).mpr (near_rounds normal fine ?_ ?_)) missed
          · simp only [value]
            linarith
          · simp only [value]
            linarith
  | succ fuel ih =>
      intro count left
      cases found : (candidates (Interval.of m e) p count).find? (Interval.of m e).holds with
      | some d =>
          rw [search_found _ found]
          exact hit found (by omega)
      | none =>
          rw [search_on _ found]
          exact ih (count + 1) (by omega)

theorem trim_value (fuel : Nat) (d : Decimal) :
    (d.trim fuel).value = d.value ∧ (d.trim fuel).digits ≤ d.digits := by
  induction fuel generalizing d with
  | zero => exact ⟨rfl, Nat.le_refl _⟩
  | succ fuel ih =>
      unfold trim
      split
      next zero =>
        obtain ⟨same, fewer⟩ := ih ⟨d.digits / 10, d.exponent + 1⟩
        have ends : d.digits = d.digits / 10 * 10 := by
          simp only [Bool.and_eq_true, decide_eq_true_eq] at zero
          omega
        refine ⟨same.trans ?_, Nat.le_trans fewer (Nat.div_le_self _ _)⟩
        have parts : (d.digits : ℚ) = (d.digits / 10 : Nat) * 10 := by exact_mod_cast ends
        rw [value, value, parts, zpow_add_one₀ (by norm_num)]
        ring
      · exact ⟨rfl, Nat.le_refl _⟩

theorem normal_range {m : Nat} {e : Int} (normal : Normal m e) :
    2 ^ (-1074 : Int) ≤ (m * 2 ^ e : ℚ) ∧ (m * 2 ^ e : ℚ) < 2 ^ (1024 : Int) := by
  have some : (1 : ℚ) ≤ m := by exact_mod_cast normal.some
  have short : (m : ℚ) < 2 ^ 53 := by exact_mod_cast normal.short
  have least : (2 : ℚ) ^ (-1074 : Int) ≤ 2 ^ e := zpow_le_zpow_right₀ (by norm_num) normal.least
  have most : (2 : ℚ) ^ e ≤ 2 ^ (971 : Int) := zpow_le_zpow_right₀ (by norm_num) normal.most
  have step : (0 : ℚ) < 2 ^ e := by positivity
  constructor
  · exact least.trans (le_mul_of_one_le_left step.le some)
  · calc (m * 2 ^ e : ℚ) < 2 ^ 53 * 2 ^ e := mul_lt_mul_of_pos_right short step
      _ ≤ 2 ^ 53 * 2 ^ (971 : Int) := mul_le_mul_of_nonneg_left most (by norm_num)
      _ = 2 ^ (1024 : Int) := by
        rw [← zpow_natCast, ← zpow_add₀ (by norm_num)]
        rfl

theorem shortest_rounds {m : Nat} {e : Int} (normal : Normal m e) :
    Rounds m e (shortest m e).value ∧ (shortest m e).digits < 10 ^ 18 := by
  obtain ⟨same, divisor⟩ := interval_value (m := m) (e := e)
  obtain ⟨least, most⟩ := normal_range normal
  have positive : (0 : ℚ) < m * 2 ^ e := lt_of_lt_of_le (by positivity) least
  have some : 0 < (Interval.of m e).value := by
    by_contra none
    have : (Interval.of m e).value = 0 := by omega
    rw [this, Nat.cast_zero, zero_div] at same
    linarith
  obtain ⟨lead, next⟩ := leading_position some divisor (by rwa [same]) (by rwa [same])
  rw [same] at lead next
  unfold shortest
  rw [if_neg normal.some.ne']
  simp only
  generalize leadingPosition _ _ = p at lead next ⊢
  obtain ⟨rounds, fine⟩ := search_rounds normal lead 16 1 rfl
  generalize search _ p 1 (16 + 1) = d at rounds fine ⊢
  obtain ⟨kept, fewer⟩ := trim_value 17 d
  rw [kept]
  refine ⟨rounds, Nat.lt_of_le_of_lt fewer ?_⟩
  have unit : (0 : ℚ) < 10 ^ d.exponent := by positivity
  have spread : (10 : ℚ) ^ (p + 1) ≤ 10 ^ 17 * 10 ^ d.exponent := by
    rw [← zpow_natCast, ← zpow_add₀ (by norm_num)]
    apply zpow_le_zpow_right₀ (by norm_num)
    omega
  have large : 2 * 2 ^ e ≤ 4 * (m * 2 ^ e : ℚ) := by
    have : (1 : ℚ) * 2 ^ e ≤ m * 2 ^ e :=
      mul_le_mul_of_nonneg_right (by exact_mod_cast normal.some) (by positivity)
    linarith
  have counted : (d.digits : ℚ) * 10 ^ d.exponent < 10 ^ 18 * 10 ^ d.exponent := by
    have high := rounds.high
    rw [value] at high
    linarith
  exact_mod_cast lt_of_mul_lt_mul_right counted unit.le

-- The leading digit of a decimal, as it is guessed from the bits of its digits.
theorem leading_guess {d : Decimal} (some : d.digits ≠ 0) (few : d.digits.log2 < 1100) :
    10 ^ ((d.digits.log2 : Int) * 30103 / 100000 + d.exponent) ≤ 5 * d.value ∧
      d.value < 10 ^ ((d.digits.log2 : Int) * 30103 / 100000 + d.exponent + 2) := by
  obtain ⟨least, most⟩ := power_guess (d := d.digits.log2) (by omega)
  have low : (2 : ℚ) ^ (d.digits.log2 : Int) ≤ d.digits := by exact_mod_cast Nat.log2_self_le some
  have high : (d.digits : ℚ) < 2 * 2 ^ (d.digits.log2 : Int) := by
    rw [mul_comm, ← zpow_add_one₀ (by norm_num)]
    exact_mod_cast Nat.lt_log2_self
  have unit : (0 : ℚ) < 10 ^ d.exponent := by positivity
  rw [zpow_add₀ (by norm_num), zpow_add₀ (by norm_num), zpow_add₀ (by norm_num), value]
  generalize (10 : ℚ) ^ ((d.digits.log2 : Int) * 30103 / 100000) = power at least most ⊢
  constructor
  · rw [← mul_assoc]
    exact mul_le_mul_of_nonneg_right (by linarith) unit.le
  · have : (d.digits : ℚ) * 10 ^ d.exponent < 100 * power * 10 ^ d.exponent :=
      mul_lt_mul_of_pos_right (by linarith) unit
    have square : (10 : ℚ) ^ (2 : Int) = 100 := by norm_num
    rw [square]
    linarith

-- What is rounded to a number is in the range in which its quotient is computed.
theorem of_decimal_rounds {m : Nat} {e : Int} (normal : Normal m e) {d : Decimal} (rounds : Rounds m e d.value)
    (short : d.digits.log2 < 1100) (negative : Bool) :
    ofDecimal negative d.digits d.exponent = pack negative ((e + 1074).toNat * 2 ^ 52 + m) := by
  obtain ⟨least, most⟩ := normal_range normal
  have tiny : (0 : ℚ) < 2 ^ (-1074 : Int) := by positivity
  obtain ⟨half, double⟩ : (m * 2 ^ e : ℚ) ≤ 2 * d.value ∧ d.value ≤ 2 * (m * 2 ^ e : ℚ) := by
    obtain ⟨low, high, -⟩ := rounds_middle rounds
    have step : (0 : ℚ) < 2 ^ e := by positivity
    have large : 2 ^ e ≤ (m * 2 ^ e : ℚ) := le_mul_of_one_le_left step.le (by exact_mod_cast normal.some)
    exact ⟨by linarith, by linarith⟩
  have some : d.digits ≠ 0 := by
    intro none
    have : d.value = 0 := by simp [value, none]
    linarith
  obtain ⟨under, above⟩ := leading_guess some short
  -- The value is within a factor of two of the number, so the guesses for infinity and for zero are not
  -- taken.
  have not_large : (d.digits.log2 : Int) * 30103 / 100000 + d.exponent < 312 := by
    have top : (2 : ℚ) ^ (1024 : Int) ≤ 50 * 10 ^ (308 : Int) := (power_guess (d := 1024) (by decide)).2
    have round : (10 : ℚ) ^ (312 : Int) = 10000 * 10 ^ (308 : Int) := by
      rw [show (312 : Int) = 4 + 308 by rfl, zpow_add₀ (by norm_num)]
      norm_num
    apply zpow_ten_lt.mp
    have positive : (0 : ℚ) < 10 ^ (308 : Int) := by positivity
    rw [round]
    generalize (10 : ℚ) ^ (308 : Int) = power at top positive ⊢
    generalize (2 : ℚ) ^ (1024 : Int) = limit at most top
    linarith
  have not_small : -326 < (d.digits.log2 : Int) * 30103 / 100000 + d.exponent + 2 := by
    have bottom : (10 : ℚ) ^ (-324 : Int) ≤ 5 * 2 ^ (-1074 : Int) := (power_guess (d := -1074) (by decide)).1
    have round : (10 : ℚ) ^ (-324 : Int) = 100 * 10 ^ (-326 : Int) := by
      rw [show (-324 : Int) = 2 + -326 by rfl, zpow_add₀ (by norm_num)]
      norm_num
    apply zpow_ten_lt.mp
    rw [round] at bottom
    linarith
  unfold ofDecimal
  simp only
  rw [if_neg some, if_neg (by omega), if_neg (by omega)]
  by_cases below : d.exponent < 0
  · rw [if_pos below]
    apply of_ratio_rounds normal (ten_to_pos _)
    rw [ten_to_cast, power_below below, zpow_neg, div_inv_eq_mul]
    exact rounds
  · rw [if_neg below]
    apply of_ratio_rounds normal (by decide)
    rw [Nat.cast_mul, ten_to_cast, power_above below, Nat.cast_one, div_one]
    exact rounds

theorem shifted_value (d : Decimal) (k : Nat) :
    (Decimal.mk (d.digits * tenTo k) (d.exponent - k)).value = d.value := by
  rw [value, value, Nat.cast_mul, ten_to_cast, zpow_sub₀ (by norm_num), zpow_natCast]
  field_simp

-- The shortest decimal of a number is rounded to that number, also with some zeros after its digits.
theorem shortest_reads {x : Binary64} {negative : Bool} {m : Nat} {e : Int}
    (finite : x.shape = .finite negative m e) {k : Nat} (few : k ≤ 16) :
    ofDecimal negative ((shortest m e).digits * tenTo k) ((shortest m e).exponent - k) = x := by
  obtain ⟨packed, ⟨rfl, rfl⟩ | normal⟩ := shape_finite finite
  · have none : shortest 0 (-1074) = ⟨0, 0⟩ := rfl
    rw [none, Nat.zero_mul, of_decimal_zero]
    exact packed
  · obtain ⟨rounds, short⟩ := shortest_rounds normal
    rw [← shifted_value _ k] at rounds
    have bits : ((shortest m e).digits * tenTo k).log2 < 1100 := by
      by_cases none : (shortest m e).digits * tenTo k = 0
      · simp [none]
      · have zeros : tenTo k ≤ 10 ^ 16 := Nat.pow_le_pow_right (by decide) few
        apply (Nat.log2_lt none).mpr
        calc (shortest m e).digits * tenTo k ≤ 10 ^ 18 * 10 ^ 16 := Nat.mul_le_mul short.le zeros
          _ < 2 ^ 1100 := by decide +kernel
    exact (of_decimal_rounds normal rounds bits negative).trans packed

end Decimal

end ApiSchema
