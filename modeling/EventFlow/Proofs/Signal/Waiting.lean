import EventFlow.Proofs.Signal.Spread
import EventFlow.Signal.Wait

/-!
# What Waiting Does

The clock and the signals, while others act and while an operation waits.

Time does not run backwards and nothing that lasts is lost: `Scene.Later` says
both of two scenes, and every happening and every wait leads to a later scene.

A wait is told by four facts, and none of its users unfolds it. What it
reports is what is found in the scene that it ends in (`check_sleepUntil`). It
does not outlast its limit, which is the end of the interval or the deadline,
whichever comes first (`now_sleepUntil_le`). If nothing interrupts it, it ends
exactly when its interval does (`now_sleepUntil`). And it ends in a later
scene (`later_sleepUntil`).

## Main definitions

* `Scene.Later`: One scene can follow another.

## Theorems

* `later_pass`: Happenings lead to a later scene.
* `check_sleepUntil`, `now_sleepUntil_le`, `now_sleepUntil`,
  `later_sleepUntil`: What a wait does.
-/

namespace EventFlow

namespace Scene

variable {scene scene' : Scene} {s : SignalId} {wake : Moment} {deadline : Option Moment}

/-- A scene that can follow another: the clock did not run backwards, and
    nothing that lasts was lost. -/
structure Later (scene scene' : Scene) : Prop where
  now_le : scene.now ≤ scene'.now
  kept : scene.signals.Extends scene'.signals

theorem Later.refl (scene : Scene) : Later scene scene :=
  ⟨Nat.le_refl _, .refl _⟩

/-- What follows on what follows, follows. -/
theorem Later.trans {scene'' : Scene} (h : Later scene scene') (h' : Later scene' scene'') :
    Later scene scene'' :=
  ⟨Nat.le_trans h.now_le h'.now_le, h.kept.trans h'.kept⟩

/-- A happening takes time and cancels, and takes nothing back. -/
theorem later_happen (scene : Scene) (happening : Happening) :
    Later scene (scene.happen happening) :=
  ⟨Nat.le_add_right _ _, Signals.extends_cancelAll _ _⟩

/-- Happenings lead to a later scene, however many they are. -/
theorem later_pass (scene : Scene) (happenings : List Happening) :
    Later scene (scene.pass happenings) := by
  rw [pass]
  induction happenings generalizing scene with
  | nil => exact .refl scene
  | cons first rest ih => exact (later_happen scene first).trans (ih (scene.happen first))

/-! ## Checks -/

/-- Nothing is found as long as nobody cancelled the signal and the deadline, if
    there is one, is ahead. -/
theorem check_eq_none : scene.check s deadline = none ↔
    scene.signals.isCancelled s = false ∧ ∀ d, deadline = some d → scene.now < d := by
  rw [check, Signals.check_eq_none]
  refine and_congr_right fun _ => ?_
  cases deadline with
  | none => simp [Signals.isPast]
  | some d => simp [Signals.isPast]

/-- A cancellation is found whatever the deadline, since it is looked for first. -/
theorem check_eq_cancelled :
    scene.check s deadline = some .cancelled ↔ scene.signals.isCancelled s = true := by
  rw [check, Signals.check]
  cases scene.signals.isCancelled s <;> cases Signals.isPast scene.now deadline <;> simp

/-- Only a deadline that has passed is reported as one. -/
theorem le_now_of_check (h : scene.check s deadline = some .deadlineExceeded) :
    ∃ d, deadline = some d ∧ d ≤ scene.now := by
  rw [check, Signals.check] at h
  cases deadline with
  | none => cases hc : scene.signals.isCancelled s <;> simp [hc, Signals.isPast] at h
  | some d =>
      refine ⟨d, rfl, ?_⟩
      by_cases hd : d ≤ scene.now
      · exact hd
      · cases hc : scene.signals.isCancelled s <;> simp [hc, Signals.isPast, hd] at h

/-! ## Waits -/

/-- A wait reports what is found in the scene that it ends in. So what it reports
    can be taken for a check that was made there, and whoever goes on from a wait
    need not check again. -/
theorem check_sleepUntil (s : SignalId) (wake : Moment) (deadline : Option Moment) (scene : Scene)
    (happenings : List Happening) :
    (scene.sleepUntil s wake deadline happenings).2.check s deadline =
      (scene.sleepUntil s wake deadline happenings).1 := by
  fun_induction sleepUntil s wake deadline scene happenings with
  | case1 scene interrupt hcheck => exact hcheck
  | case2 scene hcheck later => rfl
  | case3 scene first rest interrupt hcheck => exact hcheck
  | case4 scene first rest hcheck hwake => exact hcheck
  | case5 scene first rest hcheck hwake hlate later => rfl
  | case6 scene first rest hcheck hwake hlate ih => exact ih

/-- Before an interrupt is found, the limit of a wait is still ahead. -/
theorem now_lt_limit (hcheck : scene.check s deadline = none) (hwake : scene.now < wake) :
    scene.now < limit wake deadline := by
  cases deadline with
  | none => exact hwake
  | some d => exact Nat.lt_min.mpr ⟨hwake, (check_eq_none.mp hcheck).2 d rfl⟩

/-- A wait ends in a later scene. That the clock is not set back takes the check
    before each step: only while the limit is ahead is the clock put forward to it. -/
theorem later_sleepUntil (s : SignalId) (wake : Moment) (deadline : Option Moment) (scene : Scene)
    (happenings : List Happening) :
    Later scene (scene.sleepUntil s wake deadline happenings).2 := by
  fun_induction sleepUntil s wake deadline scene happenings with
  | case1 scene | case3 scene | case4 scene => exact .refl scene
  | case2 scene hcheck later => exact ⟨Nat.le_max_left _ _, .refl _⟩
  | case5 scene first rest hcheck hwake hlate later =>
      exact ⟨Nat.le_of_lt (now_lt_limit hcheck (Nat.not_le.mp hwake)), .refl _⟩
  -- What happens in time happens first, and the wait goes on from there.
  | case6 scene first rest hcheck hwake hlate ih => exact (later_happen scene first).trans ih

/-- A wait does not outlast its limit, if this is ahead when it begins. -/
theorem now_sleepUntil_le (s : SignalId) (wake : Moment) (deadline : Option Moment)
    (scene : Scene) (happenings : List Happening) :
    (scene.sleepUntil s wake deadline happenings).2.now ≤ max scene.now (limit wake deadline) := by
  fun_induction sleepUntil s wake deadline scene happenings with
  | case1 scene | case3 scene | case4 scene => exact Nat.le_max_left _ _
  | case2 scene hcheck later => exact Nat.le_refl _
  | case5 scene first rest hcheck hwake hlate later => exact Nat.le_max_right _ _
  | case6 scene first rest hcheck hwake hlate ih =>
      -- The happening is one that the wait still notices, so it comes before the limit.
      exact Nat.le_trans ih (Nat.max_le.mpr
        ⟨Nat.le_trans (Nat.not_lt.mp hlate) (Nat.le_max_right _ _), Nat.le_max_right _ _⟩)

/-- No wait is to last longer than its interval. -/
theorem limit_le (wake : Moment) (deadline : Option Moment) : limit wake deadline ≤ wake := by
  cases deadline with
  | none => exact Nat.le_refl _
  | some d => exact Nat.min_le_left _ _

/-- Where the deadline has not passed at the limit of a wait, this is the end
    of the interval. -/
theorem limit_eq_of_check (hle : limit wake deadline ≤ scene.now)
    (hcheck : scene.check s deadline = none) : limit wake deadline = wake := by
  cases deadline with
  | none => rfl
  | some d =>
      have hlt : min wake d < d := Nat.lt_of_le_of_lt hle ((check_eq_none.mp hcheck).2 d rfl)
      by_cases h : wake ≤ d
      · exact Nat.min_eq_left h
      · rw [Nat.min_eq_right (Nat.le_of_not_le h)] at hlt
        exact absurd hlt (Nat.lt_irrefl d)

/-- A wait that nothing interrupts ends when its interval does. A deadline that
    comes first would have been found. -/
theorem now_sleepUntil {happenings : List Happening} (hwake : scene.now ≤ wake)
    (h : (scene.sleepUntil s wake deadline happenings).1 = none) :
    (scene.sleepUntil s wake deadline happenings).2.now = wake := by
  fun_induction sleepUntil s wake deadline scene happenings with
  | case1 scene interrupt hcheck | case3 scene first rest interrupt hcheck =>
      simp only [reduceCtorEq] at h
  | case2 scene hcheck later =>
      -- Nobody else acts any more, so the clock goes to the limit.
      have hlimit := limit_eq_of_check (Nat.le_max_right _ _) h
      change max scene.now (limit wake deadline) = wake
      rw [hlimit, Nat.max_eq_right hwake]
  | case4 scene first rest hcheck hle => exact Nat.le_antisymm hwake hle
  | case5 scene first rest hcheck hle hlate later => exact limit_eq_of_check (Nat.le_refl _) h
  | case6 scene first rest hcheck hle hlate ih =>
      exact ih (Nat.le_trans (Nat.not_lt.mp hlate) (limit_le wake deadline)) h

end Scene

end EventFlow
