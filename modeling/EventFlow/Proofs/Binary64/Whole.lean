import EventFlow.Binary64

/-!
# Whole Numbers in Floating Point

Where floating point arithmetic is plain arithmetic.

A result is formed exactly and rounded once, and rounding changes nothing that
has at most 53 significant bits. Such a magnitude is a number below `2 ^ 53`,
shifted: the bits that rounding would cut off are then all zero
(`roundUnits_of_short`). Whole numbers up to `2 ^ 53` are of this kind, the last
one included, since it is a single bit. As long as sums and products stay there,
nothing is lost.

## Main definitions

* `Binary64.Short`: A magnitude that the format holds.
* `Binary64.whole`: A whole number.

## Theorems

* `roundUnits_of_short`: What the format holds is not rounded.
* `ofNat_of_le`: Up to `2 ^ 53`, every whole number is held.
* `add_finite`: A sum is rounded once.
* `add_whole`, `mul_whole`: Sums and products up to there are exact.
* `roundTiesUp_mul`: A whole quotient is not changed by rounding.
-/

namespace EventFlow

/-- A whole quotient is not changed by rounding. -/
theorem roundTiesUp_mul (q : Nat) {den : Nat} (h : 0 < den) : roundTiesUp (q * den) den = q := by
  have hnum : 2 * (q * den) + den = den + (2 * den) * q := by
    rw [Nat.mul_assoc, Nat.mul_comm den q, Nat.add_comm]
  rw [roundTiesUp, hnum, Nat.add_mul_div_left _ _ (Nat.mul_pos (by decide) h),
    Nat.div_eq_of_lt (by omega), Nat.zero_add]

namespace Binary64

/-- A magnitude of at most 53 significant bits. It may have any number of zeros
    behind them, as a format with an exponent does not store those. -/
def Short (units : Nat) : Prop :=
  ∃ digits places, digits < Nat.pow 2 53 ∧ units = digits * Nat.pow 2 places

/-- Powers of two are written by name here, so that nothing evaluates them. -/
theorem two_pow_pos (k : Nat) : 0 < Nat.pow 2 k := Nat.pow_pos (by decide)

/-- A sum of exponents is a product. -/
theorem two_pow_add (j k : Nat) : Nat.pow 2 (j + k) = Nat.pow 2 j * Nat.pow 2 k :=
  Nat.pow_add 2 j k

/-- And they grow with their exponents. -/
theorem two_pow_lt {j k : Nat} (h : j < k) : Nat.pow 2 j < Nat.pow 2 k :=
  Nat.pow_lt_pow_right (by decide) h

/-- Past its 53 leading bits, such a magnitude has nothing but zeros: it is a
    multiple of the unit that rounding goes by. -/
theorem Short.exists_mul {units : Nat} (h : Short units) :
    ∃ q, units = q * Nat.pow 2 (excessBits units) := by
  rcases h with ⟨digits, places, hlt, rfl⟩
  by_cases hzero : digits = 0
  · subst hzero
    exact ⟨0, by rw [Nat.zero_mul, Nat.zero_mul]⟩
  have hplaces := two_pow_pos places
  -- It has no more bits than its digits and the places that they are shifted by.
  have hlog : (digits * Nat.pow 2 places).log2 < 53 + places := by
    refine (Nat.log2_lt (Nat.mul_ne_zero hzero (Nat.ne_of_gt hplaces))).mpr ?_
    rw [← Nat.pow_eq, two_pow_add]
    exact Nat.mul_lt_mul_of_pos_right hlt hplaces
  have hexcess : excessBits (digits * Nat.pow 2 places) ≤ places := by
    unfold excessBits
    omega
  refine ⟨digits * Nat.pow 2 (places - excessBits (digits * Nat.pow 2 places)), ?_⟩
  rw [Nat.mul_assoc, ← two_pow_add, Nat.sub_add_cancel hexcess]

/-- What the format holds is not rounded, whatever the denominator that it is given
    with. -/
theorem roundUnits_of_short {units den : Nat} (h : Short units) (hden : 0 < den) :
    roundUnits (units * den) den = units := by
  rcases h.exists_mul with ⟨q, hq⟩
  have hstep := two_pow_pos (excessBits units)
  have hnum : units * den = q * (den * Nat.pow 2 (excessBits units)) := by
    rw [Nat.mul_left_comm, ← hq, Nat.mul_comm]
  unfold roundUnits
  simp only
  rw [Nat.mul_div_cancel _ hden, hnum, roundTiesEven_mul _ _ (Nat.mul_pos hden hstep), ← hq]

/-! ## Whole numbers -/

/-- One and the overflow limit are powers of two, with room for 53 bits below
    one and for 64 bits between them. How large they are does not matter here. -/
theorem exists_scale : ∃ k limit, unitsPerOne = Nat.pow 2 k ∧ overflowUnits = Nat.pow 2 limit ∧
    53 ≤ k ∧ 64 + k < limit :=
  ⟨1074, 2098, by unfold unitsPerOne; exact Eq.refl _, by unfold overflowUnits; exact Eq.refl _,
    by decide, by decide⟩

/-- One is not zero. -/
theorem unitsPerOne_pos : 0 < unitsPerOne := by
  rcases exists_scale with ⟨k, -, hone, -⟩
  rw [hone]
  exact two_pow_pos k

/-- Neither is the overflow limit. -/
theorem overflowUnits_pos : 0 < overflowUnits := by
  rcases exists_scale with ⟨-, limit, -, hlimit, -⟩
  rw [hlimit]
  exact two_pow_pos limit

/-- A whole number. -/
def whole (n : Nat) : Binary64 := .finite false (n * unitsPerOne)

/-- Zero is a whole number. -/
theorem whole_zero : whole 0 = zero := by rw [whole, Nat.zero_mul, zero]

variable {m n : Nat}

/-- A whole number up to `2 ^ 53` is held by the format. The bound itself has 54
    bits, all of them zero but the first. -/
theorem short_whole (h : n ≤ Nat.pow 2 53) : Short (n * unitsPerOne) := by
  rcases exists_scale with ⟨k, -, hone, -⟩
  rw [hone]
  rcases Nat.lt_or_eq_of_le h with hlt | rfl
  · exact ⟨n, k, hlt, rfl⟩
  · -- The last of them has one bit, far to the left.
    exact ⟨1, 53 + k, by decide, by rw [two_pow_add, Nat.one_mul]⟩

/-- And it does not overflow. -/
theorem whole_lt_overflowUnits (h : n ≤ Nat.pow 2 53) : n * unitsPerOne < overflowUnits := by
  rcases exists_scale with ⟨k, limit, hone, hlimit, -, hlt⟩
  calc n * unitsPerOne ≤ Nat.pow 2 53 * unitsPerOne := Nat.mul_le_mul_right _ h
    _ = Nat.pow 2 (53 + k) := by rw [hone, two_pow_add]
    _ < Nat.pow 2 limit := two_pow_lt (by omega)
    _ = overflowUnits := hlimit.symm

/-- Where a result is a whole number up to `2 ^ 53`, rounding keeps it. -/
theorem ofUnits_roundUnits {den : Nat} (h : n ≤ Nat.pow 2 53) (hden : 0 < den) :
    ofUnits false (roundUnits (n * unitsPerOne * den) den) = whole n := by
  rw [roundUnits_of_short (short_whole h) hden, ofUnits_of_lt (whole_lt_overflowUnits h), whole]

/-- Up to `2 ^ 53`, a whole number is made without rounding. -/
theorem ofNat_of_le (h : n ≤ Nat.pow 2 53) : ofNat n = whole n := by
  have hround := ofUnits_roundUnits h Nat.one_pos
  rwa [Nat.mul_one] at hround

/-- The sum of two numbers that are not negative. Zero has a case of its own in the
    definition, and it comes to the same. -/
theorem add_finite (m n : Nat) :
    (finite false m).add (.finite false n) = ofUnits false (roundUnits (m + n) 1) := by
  have hsum : signedUnits false m + signedUnits false n = ((m + n : Nat) : Int) := rfl
  unfold add
  simp only [hsum]
  split
  · -- The sum is zero, so both are, and the sign is that of the first.
    rename_i hzero
    rw [Int.natCast_eq_zero.mp hzero]
    have hround := roundUnits_of_short ⟨0, 0, by decide, rfl⟩ Nat.one_pos
    rw [Nat.mul_one] at hround
    rw [hround, ofUnits_of_lt overflowUnits_pos]
    rfl
  · rw [decide_eq_false (Int.not_lt.mpr (Int.natCast_nonneg _)), Int.natAbs_natCast]

/-- A sum up to `2 ^ 53` is exact. Only the sum has to stay there, since neither
    summand exceeds it. -/
theorem add_whole (h : m + n ≤ Nat.pow 2 53) : (whole m).add (whole n) = whole (m + n) := by
  have hround := ofUnits_roundUnits h Nat.one_pos
  rw [Nat.mul_one] at hround
  rw [← hround, whole, whole, add_finite, Nat.add_mul]

/-- A product up to `2 ^ 53` is exact. It is formed in units of units and brought
    back to units by the rounding, which has nothing to cut off. -/
theorem mul_whole (h : m * n ≤ Nat.pow 2 53) : (whole m).mul (whole n) = whole (m * n) := by
  have hproduct : m * unitsPerOne * (n * unitsPerOne) = m * n * unitsPerOne * unitsPerOne := by
    rw [Nat.mul_assoc, Nat.mul_left_comm unitsPerOne n, ← Nat.mul_assoc, ← Nat.mul_assoc]
  have hround := ofUnits_roundUnits h unitsPerOne_pos
  unfold whole mul
  simp only [hproduct]
  exact hround

end Binary64

end EventFlow
