import EventFlow.Endpoint

/-!
# The Rotation of Endpoints

Which endpoints the picks after the first one fall on.

The counter of a rotation has 64 bits and wraps around, and where it does the
order of turns is broken, unless the number of endpoints happens to divide the
range. Up to there the picks go round: with the counter at `p`, the `k`-th pick
falls on `nth (p + k)`, which repeats after `size` picks and meets every
endpoint among them.

## Main definitions

* `Endpoints.nth`: The endpoints, repeated without end.
* `Endpoints.turns`: Where the next picks fall.
* `Endpoints.later`: The rotation after so many picks.

## Theorems

* `current_later`: Where a pick falls.
* `add_lt_of_le_later`: A counter that is not behind has not wrapped around.
* `nth_eq_of_mod_eq`, `nth_add_eq_of_mod_eq`: The endpoints repeat.
* `exists_turn`: Each endpoint has its turn within a round.
* `nodup_turns`: No endpoint has two.
-/

namespace EventFlow

namespace Endpoints

/-- The endpoints in the order of their turns, over and over again. Unlike the
    counter this has no end, so turns can be told apart by adding. -/
def nth (e : Endpoints) (n : Nat) : Url :=
  e.list.get ⟨n % e.size, Nat.mod_lt n e.size_pos⟩

/-- The places in the list on which the next picks fall, unless the counter
    wraps around before. -/
def turns (e : Endpoints) (picks : Nat) : List (Fin e.list.length) :=
  (List.range picks).map fun k =>
    ⟨(e.position.toNat + k) % e.size, Nat.mod_lt _ e.size_pos⟩

/-- The rotation after so many picks. -/
def later (e : Endpoints) (picks : Nat) : Endpoints :=
  e.startingAt (e.position + UInt64.ofNat picks)

/-- A pick falls on one of the endpoints. -/
theorem current_mem (e : Endpoints) : e.current ∈ e.list :=
  List.get_mem _ _

/-- Before any pick, the rotation is as it is. -/
theorem later_zero (e : Endpoints) : e.later 0 = e := by
  rw [later, startingAt]
  simp

/-- One pick more advances the counter by one, wherever it stands: both sums are cut
    to 64 bits. -/
theorem advance_later (e : Endpoints) (picks : Nat) :
    (e.later picks).advance = e.later (picks + 1) := by
  simp only [advance, later, startingAt, mk.injEq, true_and]
  rw [UInt64.ofNat_add, UInt64.add_assoc]
  rfl

/-- The counter after some picks, cut to 64 bits. -/
theorem toNat_later (e : Endpoints) (picks : Nat) :
    (e.later picks).position.toNat = (e.position.toNat + picks) % UInt64.size := by
  rw [later, startingAt, UInt64.toNat_add, UInt64.toNat_ofNat', Nat.add_mod_mod]

/-- As long as the counter has not wrapped around, picks go round. Where it has, the
    place is that of the cut sum, and the round begins anew in its middle. -/
theorem current_later {e : Endpoints} {picks : Nat} (h : e.position.toNat + picks < UInt64.size) :
    (e.later picks).current = e.nth (e.position.toNat + picks) := by
  have hposition := e.toNat_later picks
  rw [Nat.mod_eq_of_lt h] at hposition
  simp only [current, nth, turn, hposition]
  rfl

/-- A counter that is not behind where it was has not wrapped around, if there
    were not so many picks that it could have gone all the way. -/
theorem add_lt_of_le_later {e : Endpoints} {picks : Nat} (hpicks : picks < UInt64.size)
    (h : e.position ≤ (e.later picks).position) : e.position.toNat + picks < UInt64.size := by
  have hle := UInt64.le_iff_toNat_le.mp h
  rw [toNat_later] at hle
  have hlt := e.position.toNat_lt
  by_cases hsum : e.position.toNat + picks < UInt64.size
  · exact hsum
  · rw [UInt64.size] at *
    -- It would have wrapped around once, to a number below the one it came from.
    rw [Nat.mod_eq_sub_mod (Nat.not_lt.mp hsum), Nat.mod_eq_of_lt (by omega)] at hle
    omega

/-- The endpoints repeat: which of them it is depends on the remainder alone. -/
theorem nth_eq_of_mod_eq {e : Endpoints} {m n : Nat} (h : m % e.size = n % e.size) :
    e.nth m = e.nth n := by
  simp only [nth, h]

/-- And so they stay together, however many picks follow. -/
theorem nth_add_eq_of_mod_eq {e : Endpoints} {m n : Nat} (h : m % e.size = n % e.size)
    (k : Nat) : e.nth (m + k) = e.nth (n + k) := by
  refine nth_eq_of_mod_eq ?_
  rw [Nat.add_mod, h, ← Nat.add_mod]

/-- From every turn on, each endpoint has its own within one round. So as many picks
    in a row as there are endpoints meet all of them. -/
theorem exists_turn (e : Endpoints) (start n : Nat) :
    ∃ k < e.size, (start + k) % e.size = n % e.size := by
  have hpos := e.size_pos
  have hstart := Nat.mod_lt start hpos
  have hn := Nat.mod_lt n hpos
  -- To get from one turn to the other, go on to the end of the round and then as far as the
  -- other one is.
  refine ⟨(n % e.size + (e.size - start % e.size)) % e.size, Nat.mod_lt _ hpos, ?_⟩
  rw [Nat.add_mod_mod, ← Nat.mod_add_mod]
  have hsum : start % e.size + (n % e.size + (e.size - start % e.size)) =
      n % e.size + e.size := by omega
  rw [hsum, Nat.add_mod_right, Nat.mod_mod]

/-! ## Turns -/

/-- One pick more has its place behind the others. -/
theorem turns_succ (e : Endpoints) (picks : Nat) : e.turns (picks + 1) =
    e.turns picks ++ [⟨(e.position.toNat + picks) % e.size, Nat.mod_lt _ e.size_pos⟩] := by
  rw [turns, List.range_succ, List.map_append]
  rfl

/-- Within a round, no two picks fall on the same place. The places are told apart
    and not the endpoints, since the same URL may be listed twice. -/
theorem nodup_turns {e : Endpoints} {picks : Nat} (h : picks ≤ e.size) : (e.turns picks).Nodup := by
  refine List.pairwise_map.mpr (List.pairwise_lt_range.imp_of_mem ?_)
  intro i j hi hj hlt heq
  have hj := List.mem_range.mp hj
  have hmod := Nat.sub_mod_eq_zero_of_mod_eq (Fin.mk.inj_iff.mp heq).symm
  -- Less than a round apart, and yet a multiple of it: there is no such distance.
  rw [Nat.add_sub_add_left, Nat.mod_eq_of_lt (by omega)] at hmod
  omega

end Endpoints

end EventFlow
