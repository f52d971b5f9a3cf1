import ApiSchema.Proofs.Number.Rounding
import ApiSchema.Schema.Object

/-!
Equality of keys.

Two keys are equal if they stand for one thing: numbers for their value, moments with an offset for an
instant, anything else for itself. So equality is symmetric and transitive. It is not reflexive, for what
is not a number stands for nothing.
-/

namespace ApiSchema

namespace Binary64

theorem normal_unique {m m' : Nat} {e e' : Int} (normal : Normal m e) (normal' : Normal m' e')
    (same : (m * 2 ^ e : ℚ) = m' * 2 ^ e') : m = m' ∧ e = e' := by
  -- A larger exponent comes with a full significand, whose value is out of reach.
  have apart {m m' : Nat} {e e' : Int} (normal : Normal m e) (normal' : Normal m' e')
      (same : (m * 2 ^ e : ℚ) = m' * 2 ^ e') : ¬ e < e' := by
    intro less
    have full : 2 ^ 52 ≤ m' := normal'.full.resolve_right (by have := normal.least; omega)
    have step : (0 : ℚ) < 2 ^ e := by positivity
    have short : (m : ℚ) < 2 ^ 53 := by exact_mod_cast normal.short
    have filled : (2 : ℚ) ^ 52 ≤ m' := by exact_mod_cast full
    have twice : (2 : ℚ) * 2 ^ e ≤ 2 ^ e' := by
      rw [← zpow_one_add₀ (by norm_num)]
      exact zpow_le_zpow_right₀ (by norm_num) (by omega)
    have below : (m * 2 ^ e : ℚ) < 2 ^ 53 * 2 ^ e := mul_lt_mul_of_pos_right short step
    have above : (2 : ℚ) ^ 52 * (2 * 2 ^ e) ≤ m' * 2 ^ e' := mul_le_mul filled twice (by positivity) (by positivity)
    linarith
  have exponents : e = e' := by
    have := apart normal normal' same
    have := apart normal' normal same.symm
    omega
  subst exponents
  have step : (2 : ℚ) ^ e ≠ 0 := by positivity
  exact ⟨by exact_mod_cast mul_right_cancel₀ step same, rfl⟩

theorem shape_zero {x : Binary64} (zero : x.isZero = true) :
    x.shape = .finite x.isNegative 0 (-1074) := by
  have none : x.bits.toNat % twoTo 63 = 0 := by simpa [isZero] using zero
  unfold shape
  simp [none]

theorem zero_integer {x : Binary64} (zero : x.isZero = true) : x.toInt? = some 0 := by
  unfold toInt?
  rw [shape_zero zero]
  simp [toInt?.signed]

-- A whole number is its sign and its size.
theorem integer_size {x : Binary64} {n : Int} (whole : x.toInt? = some n) : ∃ negative m e,
    x.shape = .finite negative m e ∧ (n.natAbs : ℚ) = m * 2 ^ e ∧ (n ≠ 0 → negative = decide (n < 0)) := by
  have signed (negative : Bool) (k : Nat) : (toInt?.signed negative k).natAbs = k ∧
      (toInt?.signed negative k ≠ 0 → negative = decide (toInt?.signed negative k < 0)) := by
    cases negative with
    | false => simp [toInt?.signed]
    | true =>
        simp [toInt?.signed]
        omega
  have power (k : Nat) : (twoTo k : ℚ) = 2 ^ k := by simp [twoTo]
  unfold toInt? at whole
  split at whole
  next negative m e shaped =>
    refine ⟨negative, m, e, shaped, ?_⟩
    simp only at whole
    split at whole
    next above =>
      cases whole
      refine ⟨?_, (signed _ _).2⟩
      rw [(signed _ _).1, Nat.cast_mul, power, power_above (by omega)]
    next below =>
      split at whole
      next divides =>
        cases whole
        refine ⟨?_, (signed _ _).2⟩
        have whole : m / twoTo e.natAbs * twoTo e.natAbs = m :=
          Nat.div_mul_cancel (Nat.dvd_of_mod_eq_zero divides)
        have step : (2 : ℚ) ^ e.natAbs * 2 ^ e = 1 := by
          rw [power_below (by omega), ← zpow_add₀ (by norm_num)]
          simp
        rw [(signed _ _).1]
        nth_rewrite 2 [← whole]
        rw [Nat.cast_mul, power, mul_assoc, step, mul_one]
      · cases whole
  · cases whole

theorem integer_unique {x y : Binary64} {n : Int} (first : x.toInt? = some n)
    (second : y.toInt? = some n) : x = y ∨ x.isZero = true ∧ y.isZero = true := by
  have zero {x : Binary64} (whole : x.toInt? = some 0) : x.isZero = true := by
    obtain ⟨negative, m, e, shaped, size, -⟩ := integer_size whole
    obtain ⟨packed, ⟨rfl, rfl⟩ | normal⟩ := shape_finite shaped
    · rw [← packed]
      cases negative <;> decide
    · have positive : (0 : ℚ) < m := by exact_mod_cast normal.some
      have : (0 : ℚ) < m * 2 ^ e := by positivity
      rw [← size] at this
      simp at this
  by_cases none : n = 0
  · subst none
    exact .inr ⟨zero first, zero second⟩
  · obtain ⟨negative, m, e, shaped, size, sign⟩ := integer_size first
    obtain ⟨negative', m', e', shaped', size', sign'⟩ := integer_size second
    have positive : (0 : ℚ) < n.natAbs := by exact_mod_cast Int.natAbs_pos.mpr none
    have nonzero {k : Nat} {e : Int} (size : (n.natAbs : ℚ) = k * 2 ^ e) : k ≠ 0 := by
      rintro rfl
      simp [none] at size
    obtain ⟨packed, ⟨empty, -⟩ | normal⟩ := shape_finite shaped
    · exact absurd empty (nonzero size)
    obtain ⟨packed', ⟨empty, -⟩ | normal'⟩ := shape_finite shaped'
    · exact absurd empty (nonzero size')
    obtain ⟨rfl, rfl⟩ := normal_unique normal normal' (size.symm.trans size')
    rw [sign none] at packed
    rw [sign' none] at packed'
    exact .inl (packed.symm.trans packed')

theorem integer_no_nan {x : Binary64} {n : Int} (whole : x.toInt? = some n) : x.isNan = false := by
  obtain ⟨negative, m, e, shaped, -⟩ := integer_size whole
  simp [isNan, shaped]

end Binary64

inductive Standing where
  | number (n : Int)
  | instant (seconds : Int) (micro : Nat)
  | itself (s : Scalar)

def Binary64.standing? (x : Binary64) : Option Standing :=
  if x.isNan then none else some (x.toInt?.elim (.itself (.float x)) .number)

def Moment.standing (m : Moment) : Standing :=
  m.offset.elim (.itself (.moment m)) fun offset => .instant (m.localSeconds - offset) m.micro

namespace Scalar

def standing? : Scalar → Option Standing
  | .bool b => some (.number (if b then 1 else 0))
  | .int n => some (.number n)
  | .float x => x.standing?
  | .moment m => some m.standing
  | s => some (.itself s)

theorem float_stands {x : Binary64} {n : Int} :
    x.standing? = some (.number n) ↔ x.toInt? = some n := by
  unfold Binary64.standing?
  constructor
  · intro stands
    split at stands
    · cases stands
    · cases whole : x.toInt? <;> simp_all
  · intro whole
    simp [Binary64.integer_no_nan whole, whole]

theorem float_stands_for {x : Binary64} {k : Standing} (stands : x.standing? = some k) :
    x.isNan = false ∧ (k = .itself (.float x) ∨ ∃ n, k = .number n) := by
  unfold Binary64.standing? at stands
  split at stands
  next nan => cases stands
  next number =>
    refine ⟨by simpa using number, ?_⟩
    cases Option.some.inj stands
    cases x.toInt? with
    | none => exact .inl rfl
    | some n => exact .inr ⟨n, rfl⟩

theorem moment_stands_for (m : Moment) :
    m.standing = .itself (.moment m) ∨ ∃ seconds micro, m.standing = .instant seconds micro := by
  unfold Moment.standing
  cases m.offset with
  | none => exact .inl rfl
  | some offset => exact .inr ⟨_, _, rfl⟩

theorem same_floats {x y : Binary64} : x.same y = true ↔
    ∃ k, x.standing? = some k ∧ y.standing? = some k := by
  unfold Binary64.same
  simp only [Bool.and_eq_true, Bool.not_eq_true', Bool.or_eq_true, decide_eq_true_eq]
  constructor
  · rintro ⟨⟨number, number'⟩, rfl | ⟨zero, zero'⟩⟩
    · simp [Binary64.standing?, number]
    · exact ⟨.number 0, float_stands.mpr (Binary64.zero_integer zero),
        float_stands.mpr (Binary64.zero_integer zero')⟩
  · rintro ⟨k, first, second⟩
    obtain ⟨number, own⟩ := float_stands_for first
    obtain ⟨number', own'⟩ := float_stands_for second
    refine ⟨⟨number, number'⟩, ?_⟩
    obtain rfl | ⟨n, rfl⟩ := own
    · obtain same | ⟨n, same⟩ := own'
      · cases same
        exact .inl rfl
      · cases same
    · exact Binary64.integer_unique (float_stands.mp first) (float_stands.mp second)

theorem same_moments {m n : Moment} : m.same n = true ↔ m.standing = n.standing := by
  unfold Moment.same Moment.standing
  cases m.offset <;> cases n.offset <;> simp

theorem float_differs {x : Binary64} {s : Scalar} (other : ∀ y, s ≠ .float y) :
    x.standing? ≠ some (.itself s) := by
  intro stands
  obtain ⟨-, same | ⟨n, same⟩⟩ := float_stands_for stands
  · cases same
    exact other x rfl
  · cases same

theorem moment_differs {m : Moment} {s : Scalar} (other : ∀ n, s ≠ .moment n) :
    m.standing ≠ .itself s := by
  intro stands
  obtain own | ⟨seconds, micro, own⟩ := moment_stands_for m
  · rw [own] at stands
    cases stands
    exact other m rfl
  · rw [own] at stands
    cases stands

theorem float_no_moment {x : Binary64} {m : Moment} : x.standing? ≠ some m.standing := by
  intro stands
  obtain own | ⟨seconds, micro, own⟩ := moment_stands_for m <;> rw [own] at stands
  · exact float_differs (by simp) stands
  · obtain ⟨-, same | ⟨n, same⟩⟩ := float_stands_for stands <;> cases same

theorem moment_no_number {m : Moment} {n : Int} : m.standing ≠ .number n := by
  intro stands
  obtain own | ⟨seconds, micro, own⟩ := moment_stands_for m <;> rw [own] at stands <;> cases stands

-- Keys are equal if they stand for one thing.
theorem same_iff {a b : Scalar} :
    a.same b = true ↔ ∃ k, a.standing? = some k ∧ b.standing? = some k := by
  cases a with
  | float x =>
      cases b with
      | float y => exact same_floats
      | moment m => simp [same, standing?, integer?, float_no_moment]
      | _ => simp [same, standing?, integer?, Binary64.equalsInt, float_stands, float_differs]
  | moment m =>
      cases b with
      | float y => simp [same, standing?, integer?, float_no_moment]
      | moment n =>
          simp only [same, standing?, Option.some.injEq, exists_eq_left', same_moments]
          exact eq_comm
      | _ => simp [same, standing?, integer?, moment_no_number.symm, (moment_differs _).symm]
  | _ =>
      cases b with
      | float y => simp [same, standing?, integer?, Binary64.equalsInt, float_stands, float_differs]
      | moment n => simp [same, standing?, integer?, moment_no_number, moment_differs]
      | _ => simp [same, standing?, integer?] <;> exact eq_comm

theorem same_symm {a b : Scalar} (same : a.same b = true) : b.same a = true := by
  obtain ⟨k, first, second⟩ := same_iff.mp same
  exact same_iff.mpr ⟨k, second, first⟩

theorem same_trans {a b c : Scalar} (same : a.same b = true) (same' : b.same c = true) :
    a.same c = true := by
  obtain ⟨k, first, second⟩ := same_iff.mp same
  obtain ⟨k', second', third⟩ := same_iff.mp same'
  cases second.symm.trans second'
  exact same_iff.mpr ⟨k, first, third⟩

end Scalar

namespace Value

theorem scalar_same {s : Scalar} {v : Value} :
    (Value.scalar s).same v = true ↔ ∃ s', v = .scalar s' ∧ s.same s' = true := by
  cases v <;> simp [Value.same]

theorem pair_same {a b v : Value} :
    (Value.pair a b).same v = true ↔ ∃ c d, v = .pair c d ∧ a.same c = true ∧ b.same d = true := by
  cases v <;> simp [Value.same]

theorem same_symm {a b : Value} (key : a.isKey = true) (same : a.same b = true) : b.same a = true := by
  match a with
  | .scalar s =>
      obtain ⟨s', rfl, held⟩ := scalar_same.mp same
      exact scalar_same.mpr ⟨s, rfl, Scalar.same_symm held⟩
  | .pair first second =>
      obtain ⟨key₁, key₂⟩ : first.isKey = true ∧ second.isKey = true := by simpa [isKey] using key
      obtain ⟨first', second', rfl, held₁, held₂⟩ := pair_same.mp same
      exact pair_same.mpr ⟨first, second, rfl, same_symm key₁ held₁, same_symm key₂ held₂⟩
  | .list _ | .map _ | .set _ | .loop _ => simp [isKey] at key

theorem same_trans {a b c : Value} (key : a.isKey = true) (same : a.same b = true)
    (same' : b.same c = true) : a.same c = true := by
  match a with
  | .scalar s =>
      obtain ⟨s', rfl, held⟩ := scalar_same.mp same
      obtain ⟨s'', rfl, held'⟩ := scalar_same.mp same'
      exact scalar_same.mpr ⟨s'', rfl, Scalar.same_trans held held'⟩
  | .pair first second =>
      obtain ⟨key₁, key₂⟩ : first.isKey = true ∧ second.isKey = true := by simpa [isKey] using key
      obtain ⟨first', second', rfl, held₁, held₂⟩ := pair_same.mp same
      obtain ⟨first'', second'', rfl, held₁', held₂'⟩ := pair_same.mp same'
      exact pair_same.mpr ⟨first'', second'', rfl, same_trans key₁ held₁ held₁', same_trans key₂ held₂ held₂'⟩
  | .list _ | .map _ | .set _ | .loop _ => simp [isKey] at key

end Value

end ApiSchema
