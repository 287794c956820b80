import EventFlow.Proofs.Binary64.Whole

/-!
# Rounding

Where a rounded number lies.

Rounding a quotient fixes a grid, the multiples of one power of two, and takes
the point of the grid that is nearest. The grid is fine enough for the quotient
to have 53 bits, and it is no finer than that unless its points are one unit
apart (`excess_spec`). A number that the format holds lies on every grid whose
points it could be among, and below the part of the grid that is used for
larger numbers otherwise (`Short.grid`).

Two facts follow, and most of what is to be said about results needs no others:
a rounded quotient lies on the same side of every number that the format holds
as the quotient itself, if it does not meet that number (`roundUnits_le`,
`le_roundUnits`). How far a result is off matters only where it is compared
with something that the format does not hold, and then half a step of the grid
is the bound (`two_mul_roundUnits_le`).

## Theorems

* `roundTiesEven_le_of_le`, `roundTiesEven_le_of_lt`: Bounds of a quotient that
  is rounded to a whole number.
* `excess_spec`, `Short.grid`: The grid.
* `short_roundUnits`: What was rounded is held by the format.
* `roundUnits_le`, `le_roundUnits`: Rounding passes no number of the format.
* `two_mul_roundUnits_le`: Rounding adds half a step at most.
* `roundUnits_add`: What is less than half a step above a large number is rounded
  to that number.
-/

namespace EventFlow

namespace Binary64

variable {num den units n q : Nat}

/-! ## Whole quotients -/

/-- A quotient that is at most a whole number is not rounded beyond it. -/
theorem roundTiesEven_le_of_le (hden : 0 < den) (h : num ≤ n * den) :
    roundTiesEven num den ≤ n := by
  rcases Nat.lt_or_eq_of_le h with hlt | rfl
  · exact Nat.le_trans (roundTiesEven_le num den) ((Nat.div_lt_iff_lt_mul hden).mpr hlt)
  · exact Nat.le_of_eq (roundTiesEven_mul n den hden)

/-- Neither is one that is less than a half more. -/
theorem roundTiesEven_le_of_lt (hden : 0 < den) (h : 2 * num < 2 * (n * den) + den) :
    roundTiesEven num den ≤ n := by
  by_cases hle : num ≤ n * den
  · exact roundTiesEven_le_of_le hden hle
  · -- The rest beyond the whole number is less than a half, so it is rounded down.
    have hdiv : num / den = n := by
      refine Nat.div_eq_of_lt_le (Nat.le_of_not_le hle) ?_
      rw [Nat.succ_mul]
      omega
    have hmod : 2 * (num % den) < den := by
      have hsplit := Nat.div_add_mod num den
      rw [hdiv, Nat.mul_comm] at hsplit
      omega
    rw [roundTiesEven]
    simp only [hmod, if_true, hdiv, Nat.le_refl]

/-- A rounded quotient is at most a half too large. -/
theorem two_mul_roundTiesEven_le (num den : Nat) :
    2 * (roundTiesEven num den * den) ≤ 2 * num + den := by
  have hsplit := Nat.div_add_mod num den
  rw [Nat.mul_comm] at hsplit
  have hup : (num / den + 1) * den = num / den * den + den := Nat.succ_mul ..
  unfold roundTiesEven
  simp only []
  split
  · omega
  split
  · rw [hup]
    omega
  · -- A tie: it does not matter which way it goes.
    rcases Nat.mod_two_eq_zero_or_one (num / den) with heven | hodd
    · rw [heven, Nat.add_zero]
      omega
    · rw [hodd, hup]
      omega

/-! ## The grid of a quotient -/

/-- The step of the grid on which a quotient is rounded. -/
def gridStep (num den : Nat) : Nat := Nat.pow 2 (excessBits (num / den))

/-- The points of a grid are apart. -/
theorem gridStep_pos (num den : Nat) : 0 < gridStep num den := two_pow_pos _

/-- A rounded quotient is a point of the grid, the nearest one. -/
theorem roundUnits_eq (num den : Nat) : roundUnits num den =
    roundTiesEven num (den * gridStep num den) * gridStep num den := rfl

/-- A quotient has at most 53 bits before the points of its grid, and just that
    many unless these are one unit apart. -/
theorem excess_spec (num : Nat) (hden : 0 < den) :
    num < Nat.pow 2 53 * (den * gridStep num den) ∧
    (excessBits (num / den) = 0 ∨ Nat.pow 2 52 * (den * gridStep num den) ≤ num) := by
  have hmul : ∀ k, Nat.pow 2 k * (den * gridStep num den) =
      Nat.pow 2 (k + excessBits (num / den)) * den := by
    intro k
    rw [gridStep, Nat.mul_comm den, ← Nat.mul_assoc, ← two_pow_add]
  rw [hmul, hmul]
  constructor
  · have hlt : num / den < Nat.pow 2 (53 + excessBits (num / den)) := by
      refine Nat.lt_of_lt_of_le Nat.lt_log2_self (Nat.pow_le_pow_right (by decide) ?_)
      unfold excessBits
      omega
    exact (Nat.div_lt_iff_lt_mul hden).mp hlt
  · by_cases he : excessBits (num / den) = 0
    · exact .inl he
    · refine .inr ((Nat.le_div_iff_mul_le hden).mp ?_)
      -- Bits in excess are those beyond 53, so the logarithm is known.
      have hlog : 52 + excessBits (num / den) = (num / den).log2 := by
        unfold excessBits at he ⊢
        omega
      have hne : num / den ≠ 0 := by
        intro hzero
        rw [hzero] at he
        exact he rfl
      rw [hlog]
      exact Nat.log2_self_le hne

/-- A number of the format is a point of a grid, or lies below those of its
    points that have 53 bits before them. -/
theorem Short.grid (h : Short units) (e : Nat) :
    (∃ q, units = q * Nat.pow 2 e) ∨ 0 < e ∧ units < Nat.pow 2 52 * Nat.pow 2 e := by
  rcases h with ⟨digits, places, hdigits, rfl⟩
  rcases Nat.lt_or_ge places e with hlt | hle
  · refine .inr ⟨by omega, ?_⟩
    calc digits * Nat.pow 2 places < Nat.pow 2 53 * Nat.pow 2 places :=
          Nat.mul_lt_mul_of_pos_right hdigits (two_pow_pos places)
      _ = Nat.pow 2 (53 + places) := (two_pow_add ..).symm
      _ ≤ Nat.pow 2 (52 + e) := Nat.pow_le_pow_right (by decide) (by omega)
      _ = Nat.pow 2 52 * Nat.pow 2 e := two_pow_add ..
  · refine .inl ⟨digits * Nat.pow 2 (places - e), ?_⟩
    rw [Nat.mul_assoc, ← two_pow_add, Nat.sub_add_cancel hle]

/-! ## Rounded quotients -/

/-- What was rounded is held by the format. -/
theorem short_roundUnits (num : Nat) (hden : 0 < den) : Short (roundUnits num den) := by
  have hstep := Nat.mul_pos hden (gridStep_pos num den)
  have hle : roundTiesEven num (den * gridStep num den) ≤ Nat.pow 2 53 :=
    roundTiesEven_le_of_le hstep (Nat.le_of_lt (excess_spec num hden).1)
  rw [roundUnits_eq]
  rcases Nat.lt_or_eq_of_le hle with hlt | heq
  · exact ⟨_, _, hlt, rfl⟩
  · -- Rounded up to a power of two, it has a single bit.
    refine ⟨1, 53 + excessBits (num / den), by decide, ?_⟩
    rw [heq, gridStep, two_pow_add, Nat.one_mul]

/-- A quotient that is at most a number of the format is not rounded beyond it. -/
theorem roundUnits_le (hden : 0 < den) (hunits : Short units) (h : num ≤ units * den) :
    roundUnits num den ≤ units := by
  rcases hunits.grid (excessBits (num / den)) with ⟨q, rfl⟩ | ⟨hpos, hlt⟩
  · rw [roundUnits_eq]
    refine Nat.mul_le_mul_right _ (roundTiesEven_le_of_le
      (Nat.mul_pos hden (gridStep_pos num den)) ?_)
    rwa [Nat.mul_comm den, ← Nat.mul_assoc]
  · -- The quotient has 53 bits before the points of its grid, and `units` has not.
    rcases (excess_spec num hden).2 with hzero | hle
    · omega
    · have hmul := Nat.mul_lt_mul_of_pos_right hlt hden
      rw [gridStep, Nat.mul_comm den, ← Nat.mul_assoc] at hle
      omega

/-- A quotient that is at least a number of the format is not rounded below it. -/
theorem le_roundUnits (hden : 0 < den) (hunits : Short units) (h : units * den ≤ num) :
    units ≤ roundUnits num den := by
  have hstep := Nat.mul_pos hden (gridStep_pos num den)
  have hround : ∀ q, q * (den * gridStep num den) ≤ num →
      q ≤ roundTiesEven num (den * gridStep num den) := fun q hq =>
    Nat.le_trans ((Nat.le_div_iff_mul_le hstep).mpr hq) (div_le_roundTiesEven _ _)
  rw [roundUnits_eq]
  rcases hunits.grid (excessBits (num / den)) with ⟨q, rfl⟩ | ⟨hpos, hlt⟩
  · refine Nat.mul_le_mul_right _ (hround q ?_)
    rwa [Nat.mul_comm den, ← Nat.mul_assoc]
  · rcases (excess_spec num hden).2 with hzero | hle
    · omega
    · exact Nat.le_trans (Nat.le_of_lt hlt) (Nat.mul_le_mul_right _ (hround _ hle))

/-- Rounding adds half a step at most. -/
theorem two_mul_roundUnits_le (num den : Nat) :
    2 * (roundUnits num den * den) ≤ 2 * num + den * gridStep num den := by
  have h := two_mul_roundTiesEven_le num (den * gridStep num den)
  rwa [roundUnits_eq, Nat.mul_assoc, Nat.mul_comm (gridStep num den)]

/-- What is less than half a step above a number with so many bits is rounded to
    that number. -/
theorem roundUnits_add {k rest : Nat} (hunits : Short units)
    (large : Nat.pow 2 (53 + k) ≤ units) (hrest : rest < Nat.pow 2 k) :
    roundUnits (units + rest) 1 = units := by
  have hspec := excess_spec (units + rest) Nat.one_pos
  have hle : units ≤ roundUnits (units + rest) 1 :=
    le_roundUnits Nat.one_pos hunits (by rw [Nat.mul_one]; exact Nat.le_add_right _ _)
  refine Nat.le_antisymm ?_ hle
  rw [roundUnits_eq]
  simp only [gridStep, Nat.div_one, Nat.one_mul] at hspec ⊢
  -- A step of the grid is more than twice what is added.
  have hexcess : k + 1 ≤ excessBits (units + rest) := by
    have hlog : 53 + k ≤ (units + rest).log2 := by
      have hpos := two_pow_pos (53 + k)
      refine (Nat.le_log2 (by omega)).mpr (Nat.le_trans large (Nat.le_add_right _ _))
    unfold excessBits
    omega
  generalize excessBits (units + rest) = e at *
  have htwice : Nat.pow 2 (k + 1) = 2 * Nat.pow 2 k := Nat.pow_succ'
  have hstep : Nat.pow 2 (k + 1) ≤ Nat.pow 2 e := Nat.pow_le_pow_right (by decide) hexcess
  rcases hunits.grid e with ⟨q, rfl⟩ | ⟨-, hlt⟩
  · exact Nat.mul_le_mul_right _ (roundTiesEven_le_of_lt (two_pow_pos e) (by omega))
  · -- A power of two would lie between the two numbers, but they are closer than that.
    exfalso
    rcases hunits.grid (k + 1) with ⟨q, rfl⟩ | ⟨-, hsmall⟩
    · have hpower : Nat.pow 2 52 * Nat.pow 2 e =
          Nat.pow 2 (52 + e - (k + 1)) * Nat.pow 2 (k + 1) := by
        rw [← two_pow_add, ← two_pow_add, Nat.sub_add_cancel (by omega)]
      rw [hpower] at hlt hspec
      have hnext := Nat.mul_le_mul_right (Nat.pow 2 (k + 1))
        (Nat.lt_of_mul_lt_mul_right hlt : q < Nat.pow 2 (52 + e - (k + 1)))
      rw [Nat.succ_mul] at hnext
      rcases hspec.2 with hzero | hbetween <;> omega
    · rw [← two_pow_add, ← Nat.add_assoc, Nat.add_right_comm] at hsmall
      exact absurd large (Nat.not_le.mpr hsmall)

end Binary64

end EventFlow
