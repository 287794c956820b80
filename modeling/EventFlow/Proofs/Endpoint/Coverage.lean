import EventFlow.Proofs.Endpoint.Rotation
import Mathlib.Data.List.Nodup
import Mathlib.Data.List.Perm.Subperm

/-!
# What a Round of Picks Covers

As many picks as there are endpoints should meet every endpoint once. They do
while the counter of the rotation counts up, and they do where it starts over
from zero if the number of endpoints divides the range of the counter, which
has 64 bits: then the turn that zero has is the one that would have come next
anyway. In all other cases they do not, and `perm_places_iff` says so for
every rotation and every counter.

The reason that nothing else works is a matter of residues. Let `r` be what
the range of the counter leaves when it is divided by the number of endpoints.
The last pick before the counter starts over falls on `r - 1`, and the picks
after it on `0`, `1`, `2` and so on. If they go on to `r - 1`, that place is
met twice. If they stop before it, then the place that the last of them falls
on was met already, `r` picks earlier.

Two picks in a row meet the same endpoint in one case only, where the counter
is at its greatest and its turn is the first. With three endpoints, or with
five, that is so.

## Main definitions

* `Endpoints.places`: Where picks fall, one after the other.

## Theorems

* `places_eq`: Where picks fall, told by residues.
* `perm_range`: When a list of numbers is a round.
* `dvd_of_injective`: A round that passes the end of the counter's range repeats a
  place, unless the number of endpoints divides the range.
* `perm_places_iff`: When a round of picks meets every endpoint once, and when
  two picks in a row meet the same.
-/

namespace EventFlow

namespace Endpoints

/-- The places in the list on which picks fall, one after the other. -/
def places (e : Endpoints) : Nat → List Nat
  | 0 => []
  | picks + 1 => e.turn :: e.pick.2.places picks

theorem length_places (e : Endpoints) (picks : Nat) : (e.places picks).length = picks := by
  induction picks generalizing e with
  | zero => rfl
  | succ picks ih => rw [places, List.length_cons, ih]

/-- Where a pick falls when the counter has counted up from `p` for so many
    picks, with so many endpoints. -/
def residue (p size k : Nat) : Nat :=
  (p + k) % UInt64.size % size

/-- The counter passes every pick on, also where it starts over. -/
theorem turn_later (e : Endpoints) (picks : Nat) :
    (e.later picks).turn = residue e.position.toNat e.size picks := by
  rw [turn, toNat_later]
  rfl

theorem places_later (e : Endpoints) (start picks : Nat) :
    (e.later start).places picks =
      (List.range' start picks).map (residue e.position.toNat e.size) := by
  induction picks generalizing start with
  | zero => rfl
  | succ picks ih =>
      have hnext : (e.later start).pick.2 = e.later (start + 1) := advance_later e start
      rw [places, hnext, ih, turn_later, List.range'_succ, List.map_cons]

theorem places_eq (e : Endpoints) (picks : Nat) :
    e.places picks = (List.range picks).map (residue e.position.toNat e.size) := by
  have h := e.places_later 0 picks
  rw [later_zero] at h
  rw [h, List.range_eq_range']

/-! ## Residues -/

/-- A list of as many numbers as there are places, all of them places and no
    two the same, has every place once. -/
theorem perm_range {l : List Nat} (nodup : l.Nodup) (lt : ∀ x ∈ l, x < l.length) :
    l.Perm (List.range l.length) := by
  have hsub : l.Subperm (List.range l.length) :=
    List.subperm_of_subset nodup fun x hx => List.mem_range.mpr (lt x hx)
  exact hsub.perm_of_length_le (Nat.le_of_eq List.length_range)

/-- Where the counter does not start over, or where that makes no difference,
    picks go round. -/
theorem residue_eq {p size k : Nat} (h : p + k < UInt64.size ∨ size ∣ UInt64.size) :
    residue p size k = (p + k) % size := by
  rcases h with hlt | hdvd
  · rw [residue, Nat.mod_eq_of_lt hlt]
  · rw [residue, Nat.mod_mod_of_dvd _ hdvd]

/-- A round in which the counter starts over meets a place twice, unless the
    number of endpoints divides the range of the counter. -/
theorem dvd_of_injective {p size : Nat} (hp : p < UInt64.size)
    (hpast : UInt64.size < p + size)
    (hinj : ∀ i < size, ∀ k < size, residue p size i = residue p size k → i = k) :
    size ∣ UInt64.size := by
  by_contra hdvd
  have hr : UInt64.size % size ≠ 0 := fun h => hdvd (Nat.dvd_of_mod_eq_zero h)
  by_cases hle : UInt64.size < size
  · -- There are more endpoints than values of the counter, which has come round.
    have hsame : residue p size 0 = residue p size UInt64.size := by
      rw [residue, residue, Nat.add_mod_right, Nat.add_zero]
    have := hinj 0 (by omega) UInt64.size hle hsame
    simp only [UInt64.size] at this
    omega
  have hlt : UInt64.size % size < size := Nat.mod_lt _ (by omega)
  have hdiv := Nat.div_add_mod UInt64.size size
  -- `j` picks come before the counter starts over.
  obtain ⟨j, hj⟩ : ∃ j, p + j = UInt64.size := ⟨UInt64.size - p, by omega⟩
  have hbefore : ∀ k, k < j → residue p size k = (p + k) % size :=
    fun k hk => residue_eq (.inl (by omega))
  have hafter : ∀ i, j + i < size → residue p size (j + i) = i := by
    intro i hi
    have hrange : i < UInt64.size := by omega
    rw [residue, ← Nat.add_assoc, hj, Nat.add_mod_left, Nat.mod_eq_of_lt hrange,
      Nat.mod_eq_of_lt (by omega)]
  by_cases hreach : j + UInt64.size % size ≤ size
  · -- The picks after it get as far as the last place before it.
    have hlast : residue p size (j - 1) = UInt64.size % size - 1 := by
      rw [hbefore (j - 1) (by omega)]
      have hsum : p + (j - 1) =
          size * (UInt64.size / size) + (UInt64.size % size - 1) := by omega
      rw [hsum, Nat.mul_add_mod, Nat.mod_eq_of_lt (by omega)]
    have hagain := hafter (UInt64.size % size - 1) (by omega)
    have := hinj (j - 1) (by omega) (j + (UInt64.size % size - 1)) (by omega)
      (hlast.trans hagain.symm)
    omega
  · -- They do not, and their last place was met before.
    have hearlier : residue p size (size - 1 - UInt64.size % size) = size - 1 - j := by
      rw [hbefore _ (by omega)]
      have hsum : p + (size - 1 - UInt64.size % size) =
          size * (UInt64.size / size) + (size - 1 - j) := by omega
      rw [hsum, Nat.mul_add_mod, Nat.mod_eq_of_lt (by omega)]
    have hagain := hafter (size - 1 - j) (by omega)
    have := hinj (size - 1 - UInt64.size % size) (by omega) (j + (size - 1 - j)) (by omega)
      (hearlier.trans hagain.symm)
    omega

/-- Where the counter does not start over, or where that makes no difference,
    no two picks of a round fall on the same place. -/
theorem nodup_places {e : Endpoints}
    (h : e.position.toNat + e.size ≤ UInt64.size ∨ e.size ∣ UInt64.size) :
    (e.places e.size).Nodup := by
  have hplaces : e.places e.size = (e.turns e.size).map Fin.val := by
    rw [places_eq, turns, List.map_map]
    refine List.map_congr_left fun k hk => ?_
    have hk := List.mem_range.mp hk
    exact residue_eq (h.imp_left fun hle => by omega)
  rw [hplaces]
  exact (nodup_turns (Nat.le_refl _)).map fun _ _ => Fin.eq_of_val_eq

/-- With the counter anywhere, a round of picks meets every place once exactly
    if the counter does not start over before its end, or the number of
    endpoints divides the range of the counter; and a pick falls on the same
    place as the one before exactly if there is no other place, or the counter
    starts over between the two and the first of them fell on the first place. -/
theorem perm_places_iff (e : Endpoints) (start : UInt64) :
    (((e.startingAt start).places e.size).Perm (List.range e.size) ↔
      start.toNat + e.size ≤ UInt64.size ∨ e.size ∣ UInt64.size) ∧
    ((e.startingAt start).pick.2.turn = (e.startingAt start).turn ↔
      e.size = 1 ∨ start.toNat + 1 = UInt64.size ∧ e.size ∣ start.toNat) := by
  have hpos := e.size_pos
  have hstart : start.toNat < UInt64.size := start.toNat_lt
  refine ⟨⟨fun hperm => ?_, fun h => ?_⟩, ?_⟩
  · -- A round that is one repeats no place, and then the residues decide.
    by_contra hneither
    rcases not_or.mp hneither with ⟨hpast, hdvd⟩
    have hnodup := hperm.nodup_iff.mpr List.nodup_range
    rw [places_eq] at hnodup
    refine hdvd (dvd_of_injective hstart (Nat.not_le.mp hpast) fun i hi k hk heq => ?_)
    exact List.inj_on_of_nodup_map hnodup (List.mem_range.mpr hi) (List.mem_range.mpr hk) heq
  · have hlength := (e.startingAt start).length_places e.size
    have hperm := perm_range (nodup_places (e := e.startingAt start) h) (fun x hx => ?_)
    · rwa [show (e.startingAt start).size = e.size from rfl, hlength] at hperm
    · rw [show (e.startingAt start).size = e.size from rfl, places_eq] at hx
      rcases List.mem_map.mp hx with ⟨k, -, rfl⟩
      rw [length_places]
      exact Nat.mod_lt _ hpos
  · have hnext : (e.startingAt start).pick.2.turn = (start.toNat + 1) % UInt64.size % e.size :=
      turn_later (e.startingAt start) 1
    rw [hnext, show (e.startingAt start).turn = start.toNat % e.size from rfl]
    by_cases hend : start.toNat + 1 = UInt64.size
    · -- The next turn is the first, whatever this one is.
      rw [hend, Nat.mod_self, Nat.zero_mod]
      refine ⟨fun h => .inr ⟨rfl, Nat.dvd_of_mod_eq_zero h.symm⟩, fun h => ?_⟩
      rcases h with hone | ⟨-, hdvd⟩
      · rw [hone, Nat.mod_one]
      · exact (Nat.mod_eq_zero_of_dvd hdvd).symm
    · rw [Nat.mod_eq_of_lt (by omega : start.toNat + 1 < UInt64.size)]
      refine ⟨fun h => .inl ?_, fun h => ?_⟩
      · have hmod := Nat.sub_mod_eq_zero_of_mod_eq h
        rw [Nat.add_sub_cancel_left] at hmod
        exact Nat.dvd_one.mp (Nat.dvd_of_mod_eq_zero hmod)
      · rcases h with hone | ⟨h, -⟩
        · rw [hone, Nat.mod_one, Nat.mod_one]
        · exact absurd h hend

/-- Three endpoints, and a counter at its greatest: the first of them is picked
    twice in a row, and the last is not picked at all. -/
theorem not_perm_places_wrapped : ∃ e : Endpoints,
    Endpoints.of [⟨['h'], some ⟨[], [], .name ['a'], none⟩, .segments [], none, none⟩,
      ⟨['h'], some ⟨[], [], .name ['b'], none⟩, .segments [], none, none⟩,
      ⟨['h'], some ⟨[], [], .name ['c'], none⟩, .segments [], none, none⟩] = .ok e ∧
    (e.startingAt 0xffff_ffff_ffff_ffff).places e.size = [0, 0, 1] ∧
    (e.startingAt 0xffff_ffff_ffff_ffff).pick.2.turn =
      (e.startingAt 0xffff_ffff_ffff_ffff).turn ∧
    ¬ ((e.startingAt 0xffff_ffff_ffff_ffff).places e.size).Perm (List.range e.size) := by
  refine ⟨_, rfl, by decide, by decide, ?_⟩
  decide

end Endpoints

end EventFlow
