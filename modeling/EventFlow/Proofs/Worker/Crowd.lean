import EventFlow.Proofs.Worker.Intake
import Mathlib.Logic.Relation

/-!
# Claims at the Same Time

Any number of claims on one worker, their steps interleaved in any way, never
take more than there are places for.

A claim is not one step. It takes a place, makes attempts for as long as it
likes, and when they have come to an end keeps the place or gives it back; if
it keeps it, it raises the intake some time later. Other claims take their
steps in between. `Crowd` is a worker together with how far each of its claims
has come, and `Crowd.Step` is one step of one of them. A claim may go from
claiming to success or failure at any moment, so every outcome of every claim
is covered, and `work` lets a worker connect, lose its session and rotate its
endpoints at any time, whoever makes it do so.

What all steps keep is `Crowd.Sound`: the places taken are those of claims that
still hold one and of claims that kept theirs, and the intake is the number of
claims that were counted. As a claim holds, keeps or has given back its place
and never two of these, a step moves at most one claim from one of the numbers
to another, and the sums come out right without a look at the other claims.

`reaches_consumeWith` ties the steps to the operation itself: a claim that runs
alone, from beginning to end, is a run of these steps.

## Main definitions

* `Phase`: How far a claim has come.
* `Crowd`: A worker and its claims.
* `Crowd.Step`: A step of one of the claims.
* `Crowd.Sound`: The counters agree with the claims.
* `Crowd.beginning`: Before any claim has begun.

## Theorems

* `countP_set_add`: Changing one element changes a count by that element.
* `sound_step`: A step keeps the counters right.
* `sound_of_reaches`: Any interleaving keeps them right.
* `reaches_consumeWith`: A claim on its own takes these steps.
* `successes_le_places`: No more claims succeed than there are places.
-/

namespace EventFlow

/-- How far a claim has come. Keeping the place and counting the claim are two steps
    of the operation, between which others may come, so they are two phases here. -/
inductive Phase where
  /-- It has not begun. -/
  | waiting
  /-- It has a place and makes attempts. -/
  | claiming
  /-- An attempt succeeded. -/
  | claimed
  /-- It failed, and still has its place. -/
  | failed
  /-- It succeeded and keeps its place. -/
  | kept
  /-- It is over: it succeeded and was counted. -/
  | counted
  /-- It is over: it failed and gave its place back. -/
  | gaveBack
  /-- It is over: there was no place for it. -/
  | refused
  deriving DecidableEq, Repr, Inhabited

namespace Phase

/-- Whether a claim has a place that it may still give back. A claim that succeeded
    is among these until it says that it keeps the place. -/
def holds : Phase → Bool
  | claiming | claimed | failed => true
  | _ => false

/-- Whether a claim has a place for good. No claim both holds and keeps a place,
    which is why the two numbers can be added. -/
def keeps : Phase → Bool
  | kept | counted => true
  | _ => false

/-- Whether a claim succeeded, be it that its place is still to be kept or that it
    was counted long ago. -/
def succeeded : Phase → Bool
  | claimed | kept | counted => true
  | _ => false

/-- Whether a claim is over. -/
def isOver : Phase → Bool
  | counted | gaveBack | refused => true
  | _ => false

end Phase

/-- A worker, and how far each of its claims has come. The claims are told apart by
    their position in the list; new ones do not turn up, but any of them may wait as
    long as it likes. -/
structure Crowd where
  worker : Worker
  claims : List Phase

namespace Crowd

/-- How many claims have a place that they may still give back. -/
def holding (c : Crowd) : Nat := c.claims.countP Phase.holds

/-- How many claims have a place for good. -/
def keeping (c : Crowd) : Nat := c.claims.countP Phase.keeps

/-- How many claims succeeded. -/
def successes (c : Crowd) : Nat := c.claims.countP Phase.succeeded

/-- A worker that has claimed nothing, and so many claims that have not begun. There
    may be more of them than places, and more than ever come to begin. -/
def beginning (worker : Worker) (count : Nat) : Crowd :=
  ⟨{ worker with intake := 0, reserved := 0 }, List.replicate count .waiting⟩

/-- A claim comes further, or the worker does something that is no concern of its
    counters. Each constructor is what an operation does without being interrupted
    by another one: the counters are changed by single atomic steps. -/
inductive Step : Crowd → Crowd → Prop where
  /-- A claim takes a place. -/
  | reserve {c : Crowd} {i : Nat} {worker : Worker} (phase : c.claims[i]? = some .waiting)
      (taken : c.worker.reserve? = some worker) :
      Step c ⟨worker, c.claims.set i .claiming⟩
  /-- There is no place for a claim. -/
  | refuse {c : Crowd} {i : Nat} (phase : c.claims[i]? = some .waiting)
      (full : c.worker.reserve? = none) :
      Step c { c with claims := c.claims.set i .refused }
  /-- An attempt of a claim, or whatever else the worker is used for. -/
  | work {c : Crowd} {worker : Worker} (same : Worker.Kept c.worker worker) :
      Step c { c with worker }
  /-- The attempts of a claim end with a success. -/
  | succeed {c : Crowd} {i : Nat} (phase : c.claims[i]? = some .claiming) :
      Step c { c with claims := c.claims.set i .claimed }
  /-- The attempts of a claim end without one. -/
  | fail {c : Crowd} {i : Nat} (phase : c.claims[i]? = some .claiming) :
      Step c { c with claims := c.claims.set i .failed }
  /-- A claim that succeeded keeps its place. -/
  | commit {c : Crowd} {i : Nat} (phase : c.claims[i]? = some .claimed) :
      Step c { c with claims := c.claims.set i .kept }
  /-- A claim that keeps its place is counted. -/
  | count {c : Crowd} {i : Nat} (phase : c.claims[i]? = some .kept) :
      Step c ⟨c.worker.commit, c.claims.set i .counted⟩
  /-- A claim that failed gives its place back. -/
  | release {c : Crowd} {i : Nat} (phase : c.claims[i]? = some .failed) :
      Step c ⟨c.worker.release, c.claims.set i .gaveBack⟩

/-- The counters agree with the claims. The bound is part of it, since what keeps it
    is the guard of the reservation, which looks at the counter and not at the
    claims. -/
structure Sound (max : UInt64) (c : Crowd) : Prop where
  limited : c.worker.config.maxIntake = some max
  reserved_eq : c.worker.reserved = c.holding + c.keeping
  reserved_le : c.worker.reserved ≤ max.toNat
  intake_eq : c.worker.intake = c.claims.countP (· = .counted)

/-! ## Counting -/

/-- Changing one element of a list changes a count by what the old and the new
    element contribute. -/
theorem countP_set_add {p : Phase → Bool} {l : List Phase} {i : Nat} {old : Phase}
    (h : l[i]? = some old) (new : Phase) :
    (l.set i new).countP p + (if p old then 1 else 0) = l.countP p + (if p new then 1 else 0) := by
  rcases List.getElem?_eq_some_iff.mp h with ⟨hlt, hold⟩
  -- The subtraction in the library's lemma is a real one: the old element was counted.
  have hpos : (if p old then 1 else 0) ≤ l.countP p := by
    by_cases hp : p old = true
    · rw [if_pos hp]
      exact List.countP_pos_iff.mpr ⟨old, List.mem_of_getElem? h, hp⟩
    · rw [if_neg hp]
      exact Nat.zero_le _
  rw [List.countP_set hlt, hold]
  omega

/-- Claims that succeeded hold their place or keep it. So there are no more of them
    than places taken, at any moment and not only at the end. -/
theorem successes_le (c : Crowd) : c.successes ≤ c.holding + c.keeping := by
  rcases c with ⟨worker, claims⟩
  change claims.countP Phase.succeeded ≤ claims.countP Phase.holds + claims.countP Phase.keeps
  -- By induction on the claims, each of which adds at least as much on the right.
  induction claims with
  | nil => exact Nat.le_refl 0
  | cons phase claims ih =>
      simp only [List.countP_cons]
      cases phase <;> simp only [Phase.succeeded, Phase.holds, Phase.keeps] <;> simp <;> omega

/-- A claim that failed still has its place, so there is one to give back. Without
    that, the subtraction of the release would wrap around in the counter of the
    program. -/
theorem Sound.reserved_pos {max : UInt64} {c : Crowd} (h : Sound max c) {i : Nat}
    (phase : c.claims[i]? = some .failed) : 0 < c.worker.reserved := by
  have hpos : 0 < c.holding :=
    List.countP_pos_iff.mpr ⟨.failed, List.mem_of_getElem? phase, rfl⟩
  rw [h.reserved_eq]
  exact Nat.add_pos_left hpos c.keeping

/-- Claims that were counted keep their place. The other way round a claim may keep
    its place for a while before it is counted. -/
theorem counted_le_keeping (c : Crowd) : c.claims.countP (· = .counted) ≤ c.keeping := by
  refine List.countP_mono_left (fun phase _ h => ?_)
  rw [of_decide_eq_true h]
  rfl

/-! ## Steps -/

/-- How many places a claim has, which is one at most: it is the amount by which the
    claim is in the number of places taken. -/
def places (phase : Phase) : Nat :=
  (if phase.holds then 1 else 0) + (if phase.keeps then 1 else 0)

/-- How much of the intake is a claim's. -/
def share (phase : Phase) : Nat :=
  if phase = .counted then 1 else 0

/-- A claim comes further, and the counters change by what it has then and had not
    before. All steps but `work` are cases of this, and most of them change no
    counter at all. -/
theorem Sound.move {max : UInt64} {c : Crowd} (h : Sound max c) {worker : Worker} {i : Nat}
    {old new : Phase} (phase : c.claims[i]? = some old)
    (config : worker.config = c.worker.config)
    (reserved : worker.reserved + places old = c.worker.reserved + places new)
    (intake : worker.intake + share old = c.worker.intake + share new)
    (le : worker.reserved ≤ max.toNat) : Sound max ⟨worker, c.claims.set i new⟩ := by
  have hholds := countP_set_add (p := Phase.holds) phase new
  have hkeeps := countP_set_add (p := Phase.keeps) phase new
  have hcounted := countP_set_add (p := (· = .counted)) phase new
  simp only [decide_eq_true_eq] at hcounted
  -- All that is left is to add up: no other claim is looked at.
  have hreserved := h.reserved_eq
  have hintake := h.intake_eq
  simp only [holding, keeping] at hreserved
  simp only [places] at reserved
  simp only [share] at intake
  refine ⟨config ▸ h.limited, ?_, le, ?_⟩
  · simp only [holding, keeping]
    omega
  · simp only
    omega

/-- A step keeps the counters right, whichever it is. The two that need a word are
    those that change the number of places: taking one is guarded, and giving one
    back finds one there. -/
theorem sound_step {max : UInt64} {c c' : Crowd} (h : Sound max c) (hstep : Step c c') :
    Sound max c' := by
  cases hstep with
  | reserve phase taken =>
      -- The guard of the reservation is what keeps the bound.
      rw [Worker.reserve?] at taken
      simp only [h.limited] at taken
      by_cases hlt : c.worker.reserved < max.toNat
      · rw [if_pos hlt] at taken
        obtain rfl := Option.some.inj taken
        exact h.move phase rfl rfl rfl hlt
      · rw [if_neg hlt] at taken
        simp only [reduceCtorEq] at taken
  | refuse phase full => exact h.move phase rfl rfl rfl h.reserved_le
  | work same =>
      -- What the worker does besides leaves the counters alone, and no claim moves.
      refine ⟨same.config_eq ▸ h.limited, same.reserved_eq.trans h.reserved_eq, ?_,
        same.intake_eq.trans h.intake_eq⟩
      rw [same.reserved_eq]
      exact h.reserved_le
  | succeed phase => exact h.move phase rfl rfl rfl h.reserved_le
  | fail phase => exact h.move phase rfl rfl rfl h.reserved_le
  | commit phase => exact h.move phase rfl rfl rfl h.reserved_le
  | count phase => exact h.move phase rfl rfl rfl h.reserved_le
  | release phase =>
      -- The subtraction is a real one, since the claim itself still has a place.
      have hpos := h.reserved_pos phase
      have hrelease : c.worker.release = { c.worker with reserved := c.worker.reserved - 1 } := by
        rw [Worker.release, h.limited]
      rw [hrelease]
      refine h.move phase rfl ?_ rfl (Nat.le_trans (Nat.sub_le _ _) h.reserved_le)
      exact Nat.sub_add_cancel hpos

/-- So does any interleaving of steps, by induction on their number. Who takes which
    step, and in what order, has no part in it. -/
theorem sound_of_reaches {max : UInt64} {c c' : Crowd} (h : Sound max c)
    (hreach : Relation.ReflTransGen Step c c') : Sound max c' := by
  induction hreach with
  | refl => exact h
  | tail _ hstep ih => exact sound_step ih hstep

/-! ## A claim on its own -/

/-- A claim that runs from beginning to end takes these steps, and is over
    afterwards: it was counted if it returned a reference, and otherwise gave
    its place back or got none. -/
theorem reaches_consumeWith {σ : Type} (b : Outside σ) (rounds : Nat) (signal : SignalId)
    (w : World σ) {claims : List Phase} {i : Nat} (waiting : claims[i]? = some .waiting) :
    ∃ phase : Phase, phase.isOver = true ∧
      (phase = .counted ↔ (w.consumeWith b rounds signal).1.value?.isSome = true) ∧
      Relation.ReflTransGen Step ⟨w.worker, claims⟩
        ⟨(w.consumeWith b rounds signal).2.worker, claims.set i phase⟩ := by
  have hget : ∀ phase : Phase, (claims.set i phase)[i]? = some phase := fun phase =>
    List.getElem?_set_self (List.getElem?_eq_some_iff.mp waiting).1
  rw [World.consumeWith]
  cases hr : w.worker.reserve? with
  -- There was no place, and the claim is over at once.
  | none => exact ⟨.refused, rfl, by simp [Outcome.value?], .single (.refuse waiting hr)⟩
  | some taken =>
      have hclaiming : Relation.ReflTransGen Step ⟨w.worker, claims⟩
          ⟨(World.claim b rounds signal { w with worker := taken }).2.worker,
            claims.set i .claiming⟩ :=
        (Relation.ReflTransGen.single (.reserve waiting hr)).tail
          (.work (World.kept_claim b rounds signal { w with worker := taken }))
      simp only
      generalize World.claim b rounds signal { w with worker := taken } = result at hclaiming
      rcases result with ⟨outcome, w'⟩
      -- All ends but a success lead here.
      have hgaveBack : Relation.ReflTransGen Step ⟨w.worker, claims⟩
          ⟨w'.worker.release, claims.set i .gaveBack⟩ := by
        have hfail := hclaiming.tail (.fail (hget .claiming))
        rw [List.set_set] at hfail
        have hrelease := hfail.tail (.release (hget .failed))
        rwa [List.set_set] at hrelease
      rcases outcome with (e | reference) | _ | _
      · exact ⟨.gaveBack, rfl, by simp [Outcome.value?], hgaveBack⟩
      · -- A success takes three steps more: it is found, its place is kept, and it is counted.
        have hsucceed := hclaiming.tail (.succeed (hget .claiming))
        rw [List.set_set] at hsucceed
        have hcommit := hsucceed.tail (.commit (hget .claimed))
        rw [List.set_set] at hcommit
        have hcount := hcommit.tail (.count (hget .kept))
        rw [List.set_set] at hcount
        exact ⟨.counted, rfl, by simp [Outcome.value?], hcount⟩
      · exact ⟨.gaveBack, rfl, by simp [Outcome.value?], hgaveBack⟩
      · exact ⟨.gaveBack, rfl, by simp [Outcome.value?], hgaveBack⟩

/-! ## Any number of claims -/

theorem sound_beginning {max : UInt64} {worker : Worker}
    (limited : worker.config.maxIntake = some max) (count : Nat) :
    Sound max (beginning worker count) := by
  -- No claim has begun, so whatever is counted of them is zero.
  have hnone : ∀ p : Phase → Bool, p .waiting = false →
      (beginning worker count).claims.countP p = 0 := by
    intro p hp
    refine List.countP_eq_zero.mpr (fun phase hmem => ?_)
    rw [List.eq_of_mem_replicate hmem, hp]
    exact Bool.false_ne_true
  refine ⟨limited, ?_, Nat.zero_le _, (hnone _ rfl).symm⟩
  rw [holding, keeping, hnone _ rfl, hnone _ rfl]
  rfl

/-- Where all claims are over, those that keep a place are those that succeeded, and
    were counted. Of the phases a claim can end in there is one with a success, and
    it is the only one that keeps anything. -/
theorem counts_of_over {claims : List Phase} (ended : ∀ phase ∈ claims, phase.isOver = true) :
    claims.countP Phase.holds = 0 ∧
    claims.countP Phase.keeps = claims.countP Phase.succeeded ∧
    claims.countP (· = .counted) = claims.countP Phase.succeeded := by
  refine ⟨List.countP_eq_zero.mpr (fun phase hmem => ?_),
    List.countP_congr (fun phase hmem => ?_), List.countP_congr (fun phase hmem => ?_)⟩
  · have := ended phase hmem
    cases phase <;> simp_all [Phase.isOver, Phase.holds]
  · have := ended phase hmem
    cases phase <;> simp_all [Phase.isOver, Phase.keeps, Phase.succeeded]
  · have := ended phase hmem
    cases phase <;> simp_all [Phase.isOver, Phase.succeeded]

/-- However many claims there are, whatever comes of each, and in whatever
    order their steps come: at every moment the places taken are those of
    claims that hold one and of claims that keep theirs, and no more than
    there are; the intake is not ahead of the places kept; no more claims have
    succeeded than there are places; a claim that has to give its place back
    finds one to give back; and when all are over, the places taken and the
    intake are the number of those that succeeded. -/
theorem successes_le_places {max : UInt64} {worker : Worker}
    (limited : worker.config.maxIntake = some max) (count : Nat) {c : Crowd}
    (reached : Relation.ReflTransGen Step (beginning worker count) c) :
    c.worker.reserved = c.holding + c.keeping ∧ c.worker.reserved ≤ max.toNat ∧
    c.worker.intake ≤ c.keeping ∧ c.successes ≤ max.toNat ∧
    (∀ i : Nat, c.claims[i]? = some .failed → 0 < c.worker.reserved) ∧
    ((∀ phase ∈ c.claims, phase.isOver = true) →
      c.worker.reserved = c.successes ∧ c.worker.intake = c.successes) := by
  have hsound := sound_of_reaches (sound_beginning limited count) reached
  have hreserved := hsound.reserved_eq
  have hintake := hsound.intake_eq
  have hle := hsound.reserved_le
  refine ⟨hreserved, hle, hintake ▸ counted_le_keeping c, ?_, fun _ => hsound.reserved_pos,
    fun ended => ?_⟩
  · have hsuccesses := successes_le c
    omega
  · rcases counts_of_over ended with ⟨hholds, hkeeps, hcounted⟩
    rw [holding, keeping, hholds, hkeeps] at hreserved
    exact ⟨hreserved.trans (Nat.zero_add _), hintake.trans hcounted⟩

/-- Two claims and one place: the second claim begins while the first is under
    way, and is refused. -/
theorem successes_le_places_two : ∃ (w₀ : World Unit) (c : Crowd),
    World.prepare .oneClaim ⟨0, .empty⟩ () = .ok w₀ ∧ w₀.worker.config.maxIntake = some 1 ∧
    Relation.ReflTransGen Step (beginning w₀.worker 2) c ∧ c.claims = [.counted, .refused] ∧
    c.worker.reserved = c.successes ∧ c.worker.intake = c.successes ∧ c.successes ≤ 1 := by
  obtain ⟨w₀, hprepare⟩ : ∃ w₀, World.prepare .oneClaim ⟨0, .empty⟩ () = .ok w₀ := ⟨_, rfl⟩
  have hconfig : w₀.worker.config.maxIntake = some 1 := by
    obtain rfl := Except.ok.inj hprepare
    rfl
  have htaken : (beginning w₀.worker 2).worker.reserve? =
      some { w₀.worker with intake := 0, reserved := 1 } := by
    obtain rfl := Except.ok.inj hprepare
    rfl
  have hfull : Worker.reserve? { w₀.worker with intake := 0, reserved := 1 } = none := by
    obtain rfl := Except.ok.inj hprepare
    rfl
  -- The second claim is refused while the first one still makes its attempts.
  have hreserve := Relation.ReflTransGen.single (Step.reserve (i := 0) rfl htaken)
  have hrefuse := hreserve.tail (.refuse (i := 1) rfl hfull)
  have hsucceed := hrefuse.tail (.succeed (i := 0) rfl)
  have hcommit := hsucceed.tail (.commit (i := 0) rfl)
  have hcount := hcommit.tail (.count (i := 0) rfl)
  have hover : ∀ phase ∈ [Phase.counted, .refused], phase.isOver = true := by decide
  rcases successes_le_places hconfig 2 hcount with ⟨-, -, -, hle, -, hend⟩
  rcases hend hover with ⟨hreserved, hintake⟩
  exact ⟨w₀, _, hprepare, hconfig, hcount, rfl, hreserved, hintake, hle⟩

end Crowd

end EventFlow
