import ApiSchema.Number.Binary64
import Mathlib.Algebra.Order.Field.Power
import Mathlib.Data.Rat.Cast.Order
import Mathlib.Tactic.FieldSimp
import Mathlib.Tactic.Linarith
import Mathlib.Tactic.NormNum
import Mathlib.Tactic.Positivity
import Mathlib.Tactic.Ring

namespace ApiSchema

@[simp] theorem two_to_cast (n : Nat) : (twoTo n : ℚ) = 2 ^ n := by simp [twoTo]

@[simp] theorem ten_to_cast (n : Nat) : (tenTo n : ℚ) = 10 ^ n := by simp [tenTo]

theorem two_to_pos (n : Nat) : 0 < twoTo n := Nat.pow_pos (by decide)

theorem ten_to_pos (n : Nat) : 0 < tenTo n := Nat.pow_pos (by decide)

theorem zpow_two_lt {a b : Int} : (2 : ℚ) ^ a < 2 ^ b ↔ a < b := zpow_lt_zpow_iff_right₀ (by norm_num)

theorem power_below {e : Int} (below : e < 0) (b : ℚ) : b ^ e.natAbs = b ^ (-e) := by
  rw [← zpow_natCast]
  congr 1
  omega

theorem power_above {e : Int} (above : ¬ e < 0) (b : ℚ) : b ^ e.natAbs = b ^ e := by
  rw [← zpow_natCast]
  congr 1
  omega

theorem round_between {num den m : Nat} (positive : 0 < den) (low : 2 * m * den ≤ 2 * num + den)
    (high : 2 * num ≤ (2 * m + 1) * den)
    (odd : m % 2 = 1 → 2 * m * den < 2 * num + den ∧ 2 * num < (2 * m + 1) * den) :
    roundHalfEven num den = m := by
  have split := Nat.div_add_mod num den
  have small := Nat.mod_lt num positive
  unfold roundHalfEven
  generalize num / den = quotient at split ⊢
  generalize num % den = rest at split small ⊢
  subst split
  have least : quotient ≤ m := by
    by_contra more
    have : (m + 1) * den ≤ quotient * den := Nat.mul_le_mul_right den (by omega)
    linarith
  have most : m ≤ quotient + 1 := by
    by_contra more
    have : (quotient + 2) * den ≤ m * den := Nat.mul_le_mul_right den (by omega)
    linarith
  -- A quotient in the middle is one that only an even number is rounded from.
  have tie (half : 2 * rest = den) : m % 2 = 0 := by
    by_contra uneven
    obtain ⟨above, below⟩ := odd (by omega)
    rcases Nat.lt_or_ge quotient m with next | same
    · have : m = quotient + 1 := by omega
      subst this
      linarith
    · have : m = quotient := by omega
      subst this
      linarith
  simp only
  rcases Nat.lt_or_ge quotient m with next | same
  · have : m = quotient + 1 := by omega
    subst this
    rw [if_neg (by linarith)]
    split
    · rfl
    · have := tie (by linarith)
      omega
  · have : m = quotient := by omega
    subst this
    split
    · rfl
    · rw [if_neg (by linarith)]
      have := tie (by linarith)
      omega

theorem round_near {num den m : Nat} (positive : 0 < den)
    (low : 2 * (m : ℚ) - 1 ≤ 2 * (num / den)) (high : 2 * ((num : ℚ) / den) ≤ 2 * m + 1)
    (odd : m % 2 = 1 → 2 * (m : ℚ) - 1 < 2 * (num / den) ∧ 2 * ((num : ℚ) / den) < 2 * m + 1) :
    roundHalfEven num den = m := by
  have divisor : (0 : ℚ) < den := by exact_mod_cast positive
  have value : (num : ℚ) / den * den = num := div_mul_cancel₀ _ divisor.ne'
  apply round_between positive
  · have scaled := mul_le_mul_of_nonneg_right low divisor.le
    have : (2 * m * den : ℚ) ≤ 2 * num + den := by linarith
    exact_mod_cast this
  · have scaled := mul_le_mul_of_nonneg_right high divisor.le
    have : (2 * num : ℚ) ≤ (2 * m + 1) * den := by linarith
    exact_mod_cast this
  · intro uneven
    obtain ⟨above, below⟩ := odd uneven
    have above := mul_lt_mul_of_pos_right above divisor
    have below := mul_lt_mul_of_pos_right below divisor
    have above' : (2 * m * den : ℚ) < 2 * num + den := by linarith
    have below' : (2 * num : ℚ) < (2 * m + 1) * den := by linarith
    exact ⟨by exact_mod_cast above', by exact_mod_cast below'⟩

namespace Binary64

theorem scale_den {num den : Nat} (divisor : 0 < den) (e : Int) : 0 < (scale num den e).2 := by
  unfold scale
  split
  · exact divisor
  · exact Nat.mul_pos divisor (two_to_pos _)

theorem scale_value (num den : Nat) (e : Int) :
    ((scale num den e).1 : ℚ) / (scale num den e).2 = num / den * 2 ^ (-e) := by
  unfold scale
  by_cases below : e < 0
  · rw [if_pos below]
    push_cast
    rw [two_to_cast, power_below below]
    ring
  · rw [if_neg below]
    push_cast
    rw [two_to_cast, power_above below, zpow_neg]
    ring

def Leads (q : ℚ) (e : Int) : Prop := 2 ^ 52 * 2 ^ e ≤ q ∧ q < 2 ^ 53 * 2 ^ e

theorem leads_unique {q : ℚ} {e e' : Int} (one : Leads q e) (two : Leads q e') : e = e' := by
  have half {a b : Int} (first : Leads q a) (second : Leads q b) : a ≤ b := by
    have less : (2 : ℚ) ^ a < 2 ^ (b + 1) := by
      rw [zpow_add_one₀ (by norm_num)]
      linarith [first.1, second.2]
    have := zpow_two_lt.mp less
    omega
  exact Int.le_antisymm (half one two) (half two one)

-- The logarithms tell a quotient but for a factor of two on each side.
theorem quotient_log {num den : Nat} (some : 0 < num) (divisor : 0 < den) :
    (2 : ℚ) ^ ((num.log2 : Int) - den.log2) < 2 * (num / den) ∧
      (num / den : ℚ) < 2 * 2 ^ ((num.log2 : Int) - den.log2) := by
  have positive : (0 : ℚ) < den := by exact_mod_cast divisor
  have least : (2 : ℚ) ^ num.log2 ≤ num := by exact_mod_cast Nat.log2_self_le some.ne'
  have most : (num : ℚ) < 2 ^ (num.log2 + 1) := by exact_mod_cast Nat.lt_log2_self
  have least' : (2 : ℚ) ^ den.log2 ≤ den := by exact_mod_cast Nat.log2_self_le divisor.ne'
  have most' : (den : ℚ) < 2 ^ (den.log2 + 1) := by exact_mod_cast Nat.lt_log2_self
  rw [pow_succ] at most most'
  generalize difference : (num.log2 : Int) - den.log2 = d
  have spread : (2 : ℚ) ^ d * 2 ^ den.log2 = 2 ^ num.log2 := by
    simp only [← zpow_natCast]
    rw [← zpow_add₀ (by norm_num)]
    congr 1
    omega
  have step : (0 : ℚ) < 2 ^ d := by positivity
  constructor
  · rw [← mul_div_assoc, lt_div_iff₀ positive]
    have := mul_lt_mul_of_pos_left most' step
    linarith
  · rw [div_lt_iff₀ positive]
    have := mul_le_mul_of_nonneg_left least' step.le
    linarith

theorem exponent_leads {num den : Nat} (some : 0 < num) (divisor : 0 < den) :
    ∃ e, exponentOf num den = max e (-1074) ∧ Leads (num / den) e := by
  obtain ⟨low, high⟩ := quotient_log some divisor
  generalize guessed : (num.log2 : Int) - (den.log2 : Int) - 52 = guess
  have spread : (2 : ℚ) ^ ((num.log2 : Int) - den.log2) = 2 ^ guess * 2 ^ 52 := by
    rw [← zpow_natCast, ← zpow_add₀ (by norm_num)]
    congr 1
    omega
  rw [spread] at low high
  have step : (0 : ℚ) < 2 ^ guess := by positivity
  have value := scale_value num den guess
  have positive' : (0 : ℚ) < (scale num den guess).2 := Nat.cast_pos.mpr (scale_den divisor guess)
  have compared : (scale num den guess).1 < (scale num den guess).2 * twoTo 52 ↔
      (num / den : ℚ) < 2 ^ 52 * 2 ^ guess := by
    rw [← Nat.cast_lt (α := ℚ)]
    push_cast
    rw [two_to_cast, mul_comm, ← div_lt_iff₀ positive', value, zpow_neg, ← div_eq_mul_inv, div_lt_iff₀ step]
  by_cases small : (scale num den guess).1 < (scale num den guess).2 * twoTo 52
  · refine ⟨guess - 1, ?_, ?_, ?_⟩
    · simp only [exponentOf, guessed, if_pos small]
    · rw [zpow_sub_one₀ (by norm_num)]
      linarith
    · rw [zpow_sub_one₀ (by norm_num)]
      linarith [compared.mp small]
  · refine ⟨guess, ?_, ?_, by linarith⟩
    · simp only [exponentOf, guessed, if_neg small]
    · exact not_lt.mp fun less => small (compared.mpr less)

structure Normal (m : Nat) (e : Int) : Prop where
  some : 0 < m
  short : m < 2 ^ 53
  least : -1074 ≤ e
  most : e ≤ 971
  full : 2 ^ 52 ≤ m ∨ e = -1074

def Narrow (m : Nat) (e : Int) : Prop := m = 2 ^ 52 ∧ -1074 < e

instance (m : Nat) (e : Int) : Decidable (Narrow m e) := inferInstanceAs (Decidable (_ ∧ _))

/-- A quotient between the middles to the neighbours of a number, or one of these if that is even. -/
structure Rounds (m : Nat) (e : Int) (q : ℚ) : Prop where
  low : (4 * m - (if Narrow m e then 1 else 2)) * 2 ^ e ≤ 4 * q
  high : 4 * q ≤ (4 * m + 2) * 2 ^ e
  odd : m % 2 = 1 → (4 * m - (if Narrow m e then 1 else 2)) * 2 ^ e < 4 * q ∧ 4 * q < (4 * m + 2) * 2 ^ e

theorem rounds_middle {m : Nat} {e : Int} {q : ℚ} (rounds : Rounds m e q) :
    (2 * m - 1) * 2 ^ e ≤ 2 * q ∧ 2 * q ≤ (2 * m + 1) * 2 ^ e ∧
      (m % 2 = 1 → (2 * m - 1) * 2 ^ e < 2 * q ∧ 2 * q < (2 * m + 1) * 2 ^ e) := by
  have step : (0 : ℚ) < 2 ^ e := by positivity
  obtain ⟨low, high, odd⟩ := rounds
  have wide : (4 * (m : ℚ) - 2) * 2 ^ e ≤ (4 * m - (if Narrow m e then 1 else 2)) * 2 ^ e := by
    apply mul_le_mul_of_nonneg_right _ step.le
    split <;> linarith
  refine ⟨by linarith, by linarith, fun uneven => ?_⟩
  obtain ⟨above, below⟩ := odd uneven
  exact ⟨by linarith, by linarith⟩

theorem of_ratio_at {num den : Nat} {e : Int} {m : Nat} (some : 0 < num) (exponent : exponentOf num den = e)
    (rounded : roundHalfEven (scale num den e).1 (scale num den e).2 = m)
    (within : (e + 1074).toNat * 2 ^ 52 + m < 2047 * 2 ^ 52) (negative : Bool) :
    ofRatio negative num den = pack negative ((e + 1074).toNat * 2 ^ 52 + m) := by
  have size : twoTo 52 = 2 ^ 52 := rfl
  unfold ofRatio
  rw [if_neg some.ne']
  simp only [exponent, rounded, size]
  rw [if_neg (by omega)]

theorem round_scaled {num den m : Nat} {e : Int} (divisor : 0 < den)
    (low : (2 * m - 1) * 2 ^ e ≤ 2 * (num / den : ℚ)) (high : 2 * (num / den : ℚ) ≤ (2 * m + 1) * 2 ^ e)
    (odd : m % 2 = 1 →
      (2 * m - 1) * 2 ^ e < 2 * (num / den : ℚ) ∧ 2 * (num / den : ℚ) < (2 * m + 1) * 2 ^ e) :
    roundHalfEven (scale num den e).1 (scale num den e).2 = m := by
  have step : (0 : ℚ) < 2 ^ e := by positivity
  apply round_near (scale_den divisor e)
  · rw [scale_value, zpow_neg, ← div_eq_mul_inv, ← mul_div_assoc, le_div_iff₀ step]
    exact low
  · rw [scale_value, zpow_neg, ← div_eq_mul_inv, ← mul_div_assoc, div_le_iff₀ step]
    exact high
  · intro uneven
    rw [scale_value, zpow_neg, ← div_eq_mul_inv, ← mul_div_assoc, lt_div_iff₀ step, div_lt_iff₀ step]
    exact odd uneven

theorem first_of_below {m : Nat} {e : Int} {q : ℚ} (normal : Normal m e) (above : e ≠ -1074)
    (low : (2 * m - 1) * 2 ^ e ≤ 2 * q) (below : q < 2 ^ 52 * 2 ^ e) : m = 2 ^ 52 := by
  have step : (0 : ℚ) < 2 ^ e := by positivity
  rcases normal.full with full | full
  · by_contra other
    have : (2 ^ 52 + 1 : ℚ) ≤ m := by exact_mod_cast (by omega : 2 ^ 52 + 1 ≤ m)
    have : (2 * (2 ^ 52 + 1) - 1) * 2 ^ e ≤ (2 * (m : ℚ) - 1) * 2 ^ e :=
      mul_le_mul_of_nonneg_right (by linarith) step.le
    linarith
  · exact absurd full above

-- What is below a power of two, but rounded to it, has its significand in the binade before, where
-- rounding carries into the exponent.
theorem of_ratio_carried {num den : Nat} {e lead : Int} (some : 0 < num) (divisor : 0 < den)
    (exponent : exponentOf num den = max lead (-1074)) (leads : Leads (num / den) lead)
    (least : -1074 < e) (most : e ≤ 971) (below : (num / den : ℚ) < 2 ^ 52 * 2 ^ e)
    (close : (4 * 2 ^ 52 - 1) * 2 ^ e ≤ 4 * (num / den : ℚ)) (negative : Bool) :
    ofRatio negative num den = pack negative ((e + 1074).toNat * 2 ^ 52 + 2 ^ 52) := by
  have twice : (2 : ℚ) ^ e = 2 * 2 ^ (e - 1) := by
    rw [zpow_sub_one₀ (by norm_num)]
    ring
  have step : (0 : ℚ) < 2 ^ (e - 1) := by positivity
  rw [twice] at below close
  have before : lead = e - 1 := leads_unique leads ⟨by linarith, by linarith⟩
  have rounded : roundHalfEven (scale num den (e - 1)).1 (scale num den (e - 1)).2 = 2 ^ 53 := by
    apply round_scaled divisor
    · push_cast
      linarith
    · push_cast
      linarith
    · exact fun uneven => absurd uneven (by decide)
  rw [before, max_eq_left (by omega)] at exponent
  have shifted : (e - 1 + 1074).toNat + 1 = (e + 1074).toNat := by omega
  have double : (2 ^ 53 : Nat) = 2 ^ 52 + 2 ^ 52 := by norm_num
  rw [of_ratio_at some exponent rounded (by omega) negative, ← shifted, Nat.succ_mul, Nat.add_assoc, double]

theorem of_ratio_rounds {m num den : Nat} {e : Int} (normal : Normal m e) (divisor : 0 < den)
    (rounds : Rounds m e (num / den)) (negative : Bool) :
    ofRatio negative num den = pack negative ((e + 1074).toNat * 2 ^ 52 + m) := by
  have step : (0 : ℚ) < 2 ^ e := by positivity
  have whole : (1 : ℚ) ≤ m := by exact_mod_cast normal.some
  have short : (m : ℚ) + 1 ≤ 2 ^ 53 := by exact_mod_cast normal.short
  obtain ⟨low, high, odd⟩ := rounds_middle rounds
  have positive : (0 : ℚ) < num / den := by
    have : 0 < (2 * (m : ℚ) - 1) * 2 ^ e := mul_pos (by linarith) step
    linarith
  have some : 0 < num := by
    by_contra none
    have : num = 0 := by omega
    simp [this] at positive
  obtain ⟨lead, exponent, leads⟩ := exponent_leads some divisor
  have below : (num / den : ℚ) < 2 ^ 53 * 2 ^ e := by
    have : (2 * (m : ℚ) + 1) * 2 ^ e < (2 * 2 ^ 53) * 2 ^ e := mul_lt_mul_of_pos_right (by linarith) step
    linarith
  have same (at_ : max lead (-1074) = e) :
      ofRatio negative num den = pack negative ((e + 1074).toNat * 2 ^ 52 + m) := by
    have := normal.most
    have := normal.least
    have := normal.short
    apply of_ratio_at some (exponent.trans at_) (round_scaled divisor low high odd)
    omega
  by_cases inside : 2 ^ 52 * 2 ^ e ≤ (num / den : ℚ)
  · have : lead = e := leads_unique leads ⟨inside, below⟩
    apply same
    rw [this]
    exact max_eq_left normal.least
  · by_cases bottom : e = -1074
    · apply same
      have : (2 : ℚ) ^ lead < 2 ^ e := by linarith [leads.1]
      have := zpow_two_lt.mp this
      omega
    · have first : m = 2 ^ 52 := first_of_below normal bottom low (not_le.mp inside)
      have least := normal.least
      have close := rounds.low
      rw [if_pos ⟨first, by omega⟩, first] at close
      push_cast at close
      rw [first]
      exact of_ratio_carried some divisor exponent leads (by omega) normal.most (not_le.mp inside) close
        negative

theorem of_decimal_zero (negative : Bool) (e : Int) : ofDecimal negative 0 e = zero negative := by
  unfold ofDecimal
  simp

theorem shape_finite {x : Binary64} {negative : Bool} {m : Nat} {e : Int}
    (finite : x.shape = .finite negative m e) :
    pack negative ((e + 1074).toNat * 2 ^ 52 + m) = x ∧ (m = 0 ∧ e = -1074 ∨ Normal m e) := by
  obtain ⟨bits⟩ := x
  have sizes : twoTo 52 = 2 ^ 52 ∧ twoTo 63 = 2 ^ 63 := ⟨rfl, rfl⟩
  have range := bits.toNat_lt
  -- The bits, cut at the sign and at the exponent.
  have packed : pack (isNegative ⟨bits⟩) (bits.toNat % 2 ^ 63) = ⟨bits⟩ := by
    have whole : (if isNegative ⟨bits⟩ then 2 ^ 63 else 0) + bits.toNat % 2 ^ 63 = bits.toNat := by
      by_cases high : 2 ^ 63 ≤ bits.toNat
      · rw [isNegative, sizes.2, decide_eq_true high, if_pos rfl]
        omega
      · rw [isNegative, sizes.2, decide_eq_false high, if_neg (by decide)]
        omega
    rw [pack, sizes.2, whole, UInt64.ofNat_toNat]
  unfold shape at finite
  simp only [sizes] at finite
  split at finite
  · split at finite <;> cases finite
  · split at finite
    next field =>
      cases finite
      refine ⟨?_, ?_⟩
      · have magnitude : ((-1074 : Int) + 1074).toNat * 2 ^ 52 + bits.toNat % 2 ^ 63 % 2 ^ 52 =
            bits.toNat % 2 ^ 63 := by omega
        rw [magnitude, packed]
      · by_cases none : bits.toNat % 2 ^ 63 % 2 ^ 52 = 0
        · exact .inl ⟨none, rfl⟩
        · exact .inr ⟨by omega, by omega, by omega, by omega, .inr rfl⟩
    next normal field =>
      cases finite
      refine ⟨?_, .inr ⟨by omega, by omega, by omega, by omega, .inl (by omega)⟩⟩
      have magnitude : (((bits.toNat % 2 ^ 63 / 2 ^ 52 : Nat) : Int) - 1075 + 1074).toNat * 2 ^ 52 +
          (bits.toNat % 2 ^ 63 % 2 ^ 52 + 2 ^ 52) = bits.toNat % 2 ^ 63 := by omega
      rw [magnitude, packed]

end Binary64

end ApiSchema
