import EventFlow.Proofs.Signal.History

/-!
# Signals and Newcomers

Signals that come later, and what they leave as it was.

Whoever makes a signal of its own and links it to others borrows from a graph
that is not its own. `Alike n` says that two graphs look the same to somebody
who knows the signals below `n` only: who holds them, which of them are
cancelled, and how they are linked to each other, in order and as often as
they are. Links are counted as far as somebody holds their target
(`liveLinks`), since nobody can tell the others from none.

Looking alike is kept by cancelling the same signal in both graphs
(`Alike.cancel`), although the cancellation may run through newcomers in one of
them and not in the other. This takes one more fact: no way leads back from a
newcomer. A cancellation then gets to a signal below `n` only on ways that stay
below `n`, and those are the same in both graphs.

Everything that is done with a newcomer itself makes no difference at all: it
may be made, attached, detached, cancelled and let go. Once it is gone, the
graphs look alike to everybody (`Alike.liveLinks_eq`).

## Main definitions

* `Signals.holdersOf`, `Signals.liveLinks`: What is counted of a signal.
* `Signals.Inert`: No way leads back from the signals from `n` on.
* `Signals.Alike`: Two graphs look the same below `n`.

## Theorems

* `Alike.cancel`, `Alike.cancelAll`: Cancellations keep the likeness.
* `alike_fresh`, `alike_attach`, `alike_detach`, `alike_release`: Newcomers make
  no difference.
* `Alike.lower`: Who knows fewer signals sees no difference either.
* `Alike.liveLinks_eq`: The links are the same when all newcomers are gone.
-/

namespace EventFlow

namespace Signals

variable {g g' g'' : Signals} {m n s t x y : Nat}

/-! ## Holders -/

/-- How many hold a signal. -/
def holdersOf (g : Signals) (s : SignalId) : Nat :=
  match g.get? s with
  | some signal => signal.holders
  | none => 0

/-- A signal is held if it has holders. Likeness counts them, since a single release
    must take the same effect in both graphs. -/
theorem isHeld_eq (g : Signals) (s : SignalId) : g.isHeld s = decide (0 < g.holdersOf s) := by
  rw [isHeld, holdersOf]
  cases g.get? s <;> rfl

/-- A change that leaves the holders alone. -/
theorem holdersOf_modify {f : Signal → Signal} (hf : ∀ signal, (f signal).holders = signal.holders)
    (g : Signals) (s t : SignalId) : (g.modify s f).holdersOf t = g.holdersOf t := by
  rw [holdersOf, holdersOf, get?_modify]
  cases g.get? t with
  | none => rfl
  | some signal =>
      by_cases h : s = t
      · simp only [Option.map_some, if_pos h, hf]
      · simp only [Option.map_some, if_neg h]

/-- A cancellation changes no count of holders: a delivery only marks, and what a
    thread holds on the way it lets go again. -/
@[simp] theorem holdersOf_cancel (g : Signals) (s t : SignalId) :
    (g.cancel s).holdersOf t = g.holdersOf t :=
  deliver_rule (P := fun g' => g'.holdersOf t = g.holdersOf t)
    (fun g' s _ h => (holdersOf_modify (f := fun signal =>
      { signal with cancelled := true, links := [] }) (fun _ => rfl) g' s t).trans h) g [s] rfl

@[simp] theorem holdersOf_cancelAll (g : Signals) (signals : List SignalId) (t : SignalId) :
    (g.cancelAll signals).holdersOf t = g.holdersOf t := by
  rw [cancelAll]
  induction signals generalizing g with
  | nil => rfl
  | cons s signals ih => exact (ih (g.cancel s)).trans (holdersOf_cancel g s t)

theorem holdersOf_relink (g : Signals) (s : SignalId) (f : List SignalId → List SignalId)
    (t : SignalId) : (g.relink s f).holdersOf t = g.holdersOf t :=
  holdersOf_modify (f := fun signal => { signal with links := f signal.links }) (fun _ => rfl) g s t

/-- Links do not hold their targets. -/
@[simp] theorem holdersOf_attach (g : Signals) (s t x : SignalId) :
    (g.attach s t).holdersOf x = g.holdersOf x := by
  rw [attach_eq]
  by_cases hc : g.isCancelled s = true
  · rw [if_pos hc, holdersOf_cancel]
  · rw [if_neg hc, holdersOf_relink]

@[simp] theorem holdersOf_detach (g : Signals) (s t x : SignalId) :
    (g.detach s t).holdersOf x = g.holdersOf x :=
  holdersOf_relink ..

/-- Letting go takes one holder away, and from nobody else. -/
theorem holdersOf_release (g : Signals) (s t : SignalId) :
    (g.release s).holdersOf t = if s = t then g.holdersOf t - 1 else g.holdersOf t := by
  rw [holdersOf, holdersOf, release, get?_modify]
  cases g.get? t with
  | none => by_cases h : s = t <;> simp only [h, if_true, if_false, Option.map_none]
  | some signal => by_cases h : s = t <;> simp only [h, if_true, if_false, Option.map_some]

/-- Whoever makes a signal is the only one to hold it. -/
theorem holdersOf_fresh (g : Signals) (s : SignalId) :
    g.fresh.2.holdersOf s = if s = g.size then 1 else g.holdersOf s := by
  rw [holdersOf, get?_fresh, holdersOf]
  by_cases h : s = g.size <;> simp only [h, if_true, if_false]

/-- Nobody holds a signal that was not made yet. -/
theorem holdersOf_of_size_le (h : g.size ≤ s) : g.holdersOf s = 0 := by
  have hnone : g.get? s = none := List.getElem?_eq_none h
  rw [holdersOf, hnone]

/-! ## Links -/

/-- The links of a signal whose targets somebody holds. Links to others are cleared
    away now and then, and nobody can tell when. -/
def liveLinks (g : Signals) (s : SignalId) : List SignalId :=
  (g.linksOf s).filter g.isHeld

theorem mem_liveLinks : y ∈ g.liveLinks x ↔ y ∈ g.linksOf x ∧ g.isHeld y = true :=
  List.mem_filter

/-- Lists that agree below `n` have the same members there. -/
theorem mem_iff_of_filter {links links' : List Nat}
    (h : links'.filter (· < n) = links.filter (· < n)) (hy : y < n) : y ∈ links' ↔ y ∈ links := by
  have hmem : ∀ list : List Nat, y ∈ list.filter (· < n) ↔ y ∈ list := fun list => by
    rw [List.mem_filter, decide_eq_true_eq, and_iff_left hy]
  rw [← hmem links', h, hmem links]

theorem isHeld_cancel (g : Signals) (s t : SignalId) : (g.cancel s).isHeld t = g.isHeld t :=
  isHeld_deliver_eq g [s] t

/-- A cancellation takes the links of the signals away that it cancels, and no
    others. -/
theorem liveLinks_cancel (g : Signals) (s x : SignalId) :
    (g.cancel s).liveLinks x =
      if g.isCancelled x = false ∧ (g.cancel s).isCancelled x = true then []
      else g.liveLinks x := by
  have hheld : (g.cancel s).isHeld = g.isHeld := funext (isHeld_cancel g s)
  -- Nobody is let go, so the links that count are the same ones.
  rw [liveLinks, hheld, cancel, linksOf_deliver, ← cancel, liveLinks]
  split
  · rfl
  · rfl

/-- No way leads back from the signals from `n` on. -/
def Inert (n : Nat) (g : Signals) : Prop :=
  ∀ x, n ≤ x → ∀ y ∈ g.liveLinks x, n ≤ y

/-- Nothing was made from the size on that could lead back. -/
theorem inert_size (g : Signals) : Inert g.size g := by
  intro x hx y hy
  have hnone : g.get? x = none := List.getElem?_eq_none hx
  rw [liveLinks, linksOf, hnone] at hy
  exact absurd hy List.not_mem_nil

/-- A cancellation makes no way back, as it adds no links. -/
theorem Inert.cancel (h : Inert n g) (s : SignalId) : Inert n (g.cancel s) := by
  intro x hx y hy
  rw [liveLinks_cancel] at hy
  split at hy
  · exact absurd hy List.not_mem_nil
  · exact h x hx y hy

/-! ## Looking alike -/

/-- Two graphs look the same to somebody who knows the signals below `n` only, and
    in neither of them a way leads back there from the others. Without the latter, a
    cancellation could come round through newcomers. -/
structure Alike (n : Nat) (g g' : Signals) : Prop where
  cancelled : ∀ x < n, g'.isCancelled x = g.isCancelled x
  holders : ∀ x < n, g'.holdersOf x = g.holdersOf x
  links : ∀ x < n, (g'.liveLinks x).filter (· < n) = (g.liveLinks x).filter (· < n)
  inert : Inert n g
  inert' : Inert n g'

/-- A graph looks like itself to those who know the signals below `n`, if no way
    leads back to these. -/
theorem Alike.refl (h : Inert n g) : Alike n g g :=
  ⟨fun _ _ => rfl, fun _ _ => rfl, fun _ _ => rfl, h, h⟩

theorem Alike.symm (h : Alike n g g') : Alike n g' g :=
  ⟨fun x hx => (h.cancelled x hx).symm, fun x hx => (h.holders x hx).symm,
    fun x hx => (h.links x hx).symm, h.inert', h.inert⟩

theorem Alike.trans (h : Alike n g g') (h' : Alike n g' g'') : Alike n g g'' :=
  ⟨fun x hx => (h'.cancelled x hx).trans (h.cancelled x hx),
    fun x hx => (h'.holders x hx).trans (h.holders x hx),
    fun x hx => (h'.links x hx).trans (h.links x hx), h.inert, h'.inert'⟩

/-- Who is held below `n` is seen from the counts. -/
theorem Alike.isHeld_eq (h : Alike n g g') (hx : x < n) : g'.isHeld x = g.isHeld x := by
  rw [Signals.isHeld_eq, Signals.isHeld_eq, h.holders x hx]

/-- Who knows fewer signals sees no difference either. -/
theorem Alike.lower (h : Alike n g g') (hle : m ≤ n) (inert : Inert m g) : Alike m g g' where
  cancelled := fun x hx => h.cancelled x (Nat.lt_of_lt_of_le hx hle)
  holders := fun x hx => h.holders x (Nat.lt_of_lt_of_le hx hle)
  links := fun x hx => by
    have hfilter : ∀ links : List Nat,
        links.filter (· < m) = (links.filter (· < n)).filter (· < m) := by
      intro links
      rw [List.filter_filter]
      refine List.filter_congr fun y _ => ?_
      rw [Bool.eq_iff_iff, Bool.and_eq_true, decide_eq_true_eq, decide_eq_true_eq]
      exact ⟨fun hy => ⟨hy, Nat.lt_of_lt_of_le hy hle⟩, And.left⟩
    rw [hfilter, h.links x (Nat.lt_of_lt_of_le hx hle), ← hfilter]
  inert := inert
  inert' := fun x hx y hy => by
    by_cases hyn : y < n
    · by_cases hxn : x < n
      · -- The link is one that both graphs have.
        exact inert x hx y ((mem_iff_of_filter (h.links x hxn) hyn).mp hy)
      · exact absurd hyn (Nat.not_lt.mpr (h.inert' x (Nat.not_lt.mp hxn) y hy))
    · exact Nat.le_trans hle (Nat.not_lt.mp hyn)

/-! ## Cancellations -/

/-- A way that ends below `n` stays below `n`, so it is there in both graphs. -/
theorem Alike.chain (h : Alike n g g') (hchain : Relation.ReflTransGen g.Passes s y) (hy : y < n) :
    s < n ∧ Relation.ReflTransGen g'.Passes s y := by
  induction hchain with
  | refl => exact ⟨hy, .refl⟩
  | tail _ hpass ih =>
      rename_i b y _
      rcases hpass with ⟨hb, hopen, hlink⟩
      -- The last link of the way counts, since its target is held; from a newcomer it would lead
      -- back.
      have hlive := mem_liveLinks.mpr ⟨hlink, isHeld_of_isOpen hopen⟩
      have hbn : b < n := Nat.not_le.mp fun hnb => Nat.not_lt.mpr (h.inert b hnb y hlive) hy
      have hlink' : y ∈ g'.linksOf b :=
        (mem_liveLinks.mp ((mem_iff_of_filter (h.links b hbn) hy).mpr hlive)).1
      have hsame : ∀ {z}, z < n → g'.isOpen z = g.isOpen z := fun hz => by
        rw [isOpen_eq, isOpen_eq, h.isHeld_eq hz, h.cancelled _ hz]
      rcases ih hbn with ⟨hs, hchain'⟩
      exact ⟨hs, hchain'.tail ⟨(hsame hbn).trans hb, (hsame hy).trans hopen, hlink'⟩⟩

/-- What is cancelled below `n` in the one graph is cancelled in the other. The
    converse is the same statement about the graphs the other way round. -/
theorem Alike.isCancelled_cancel_of (h : Alike n g g') (hx : x < n)
    (hc : (g.cancel s).isCancelled x = true) : (g'.cancel s).isCancelled x = true := by
  rw [Signals.cancel, isCancelled_deliver_iff] at hc ⊢
  rcases hc with hc | ⟨p, hmem, hp, hchain⟩
  · exact .inl ((h.cancelled x hx).trans hc)
  · rcases h.chain hchain hx with ⟨hpn, hchain'⟩
    refine .inr ⟨p, hmem, ?_, hchain'⟩
    rw [isOpen_eq, h.isHeld_eq hpn, h.cancelled p hpn, ← isOpen_eq]
    exact hp

/-- Cancelling the same signal in both graphs keeps the likeness. -/
theorem Alike.cancel (h : Alike n g g') (s : SignalId) : Alike n (g.cancel s) (g'.cancel s) := by
  have hsame : ∀ x < n, (g'.cancel s).isCancelled x = (g.cancel s).isCancelled x := fun x hx => by
    rw [Bool.eq_iff_iff]
    exact ⟨h.symm.isCancelled_cancel_of hx, h.isCancelled_cancel_of hx⟩
  -- Which links are taken away depends only on who was cancelled before and who is now.
  refine ⟨hsame, fun x hx => ?_, fun x hx => ?_, h.inert.cancel s, h.inert'.cancel s⟩
  · rw [holdersOf_cancel, holdersOf_cancel, h.holders x hx]
  · rw [liveLinks_cancel, liveLinks_cancel, hsame x hx, h.cancelled x hx]
    split
    · rfl
    · exact h.links x hx

/-- Several cancellations in a row keep the likeness, one after the other. -/
theorem Alike.cancelAll (h : Alike n g g') (signals : List SignalId) :
    Alike n (g.cancelAll signals) (g'.cancelAll signals) := by
  rw [Signals.cancelAll, Signals.cancelAll]
  induction signals generalizing g g' with
  | nil => exact h
  | cons s signals ih => exact ih (h.cancel s)

/-! ## Newcomers -/

/-- A change to links that leaves those to signals below `n` alone, and those of
    signals from `n` on without one. -/
theorem alike_of_links (inert : Inert n g) (cancelled : ∀ x < n, g'.isCancelled x = g.isCancelled x)
    (holders : ∀ x < n, g'.holdersOf x = g.holdersOf x)
    (links : ∀ x, (g'.liveLinks x).filter (· < n) = (g.liveLinks x).filter (· < n)) :
    Alike n g g' := by
  refine ⟨cancelled, holders, fun x _ => links x, inert, fun x hx y hy => ?_⟩
  refine Nat.not_lt.mp fun hyn => Nat.not_lt.mpr (inert x hx y ?_) hyn
  exact (mem_iff_of_filter (links x) hyn).mp hy

/-- Those who hold the signals below `n` say which links to them are live, so links
    that agree below `n` are live in both graphs or in none. -/
theorem filter_liveLinks (holders : ∀ x < n, g'.holdersOf x = g.holdersOf x)
    (links : (g'.linksOf x).filter (· < n) = (g.linksOf x).filter (· < n)) :
    (g'.liveLinks x).filter (· < n) = (g.liveLinks x).filter (· < n) := by
  have hswap : ∀ h : Signals, (h.liveLinks x).filter (· < n) =
      ((h.linksOf x).filter (· < n)).filter h.isHeld := fun h => by
    rw [liveLinks, List.filter_filter, List.filter_filter]
    simp only [Bool.and_comm]
  rw [hswap, hswap, links]
  refine List.filter_congr fun y hy => ?_
  rw [isHeld_eq, isHeld_eq, holders y (of_decide_eq_true (List.mem_filter.mp hy).2)]

/-- Making a newcomer makes no difference to those who know the signals before it. -/
theorem alike_fresh (inert : Inert n g) (hn : n ≤ g.size) : Alike n g g.fresh.2 := by
  have holders : ∀ x < n, g.fresh.2.holdersOf x = g.holdersOf x := fun x hx => by
    rw [holdersOf_fresh, if_neg (Nat.ne_of_lt (Nat.lt_of_lt_of_le hx hn))]
  refine alike_of_links inert (fun x _ => isCancelled_fresh g x) holders fun x => ?_
  exact filter_liveLinks holders (by rw [linksOf_fresh])

/-- Letting a newcomer go makes no difference. Links to it may count no longer, but
    nobody below `n` is asked about those. -/
theorem alike_release (inert : Inert n g) (ht : n ≤ t) : Alike n g (g.release t) := by
  have holders : ∀ x < n, (g.release t).holdersOf x = g.holdersOf x := fun x hx => by
    rw [holdersOf_release, if_neg (Nat.ne_of_gt (Nat.lt_of_lt_of_le hx ht))]
  refine alike_of_links inert (fun x _ => isCancelled_release g t x) holders fun x => ?_
  exact filter_liveLinks holders (by rw [linksOf_release])

/-- Cancelling a newcomer cancels newcomers only. -/
theorem alike_cancel (inert : Inert n g) (ht : n ≤ t) : Alike n g (g.cancel t) := by
  have hsame : ∀ x < n, (g.cancel t).isCancelled x = g.isCancelled x := fun x hx => by
    rw [Bool.eq_iff_iff, cancel, isCancelled_deliver_iff]
    refine ⟨fun hc => ?_, .inl⟩
    rcases hc with hc | ⟨p, hmem, -, hchain⟩
    · exact hc
    · obtain rfl := List.mem_singleton.mp hmem
      -- A way to an older signal would have to begin at one.
      exact absurd ((Alike.refl inert).chain hchain hx).1 (Nat.not_lt.mpr ht)
  refine ⟨hsame, fun x _ => holdersOf_cancel g t x, fun x hx => ?_, inert, inert.cancel t⟩
  rw [liveLinks_cancel, hsame x hx, if_neg]
  rintro ⟨hno, hyes⟩
  exact absurd (hno.symm.trans hyes) Bool.false_ne_true

/-- Changing the links of a signal that was not made yet changes nothing. -/
theorem relink_of_size_le (f : List SignalId → List SignalId) (hs : g.size ≤ s) :
    g.relink s f = g :=
  congrArg Signals.mk (List.modify_eq_self hs)

/-- Attaching a newcomer makes no difference, be it that its link is added or that
    it is cancelled at once. Attaching also clears away links to signals that nobody
    holds, and `liveLinks` does not count these. -/
theorem alike_attach (inert : Inert n g) (s : SignalId) (ht : n ≤ t) :
    Alike n g (g.attach s t) := by
  rw [attach_eq]
  by_cases hc : g.isCancelled s = true
  · rw [if_pos hc]
    exact alike_cancel inert ht
  · rw [if_neg hc]
    by_cases hs : g.size ≤ s
    · rw [relink_of_size_le _ hs]
      exact .refl inert
    have hheld : ∀ f, (g.relink s f).isHeld = g.isHeld := fun f => funext (isHeld_relink g s f)
    refine alike_of_links inert (fun x _ => isCancelled_relink ..)
      (fun x _ => holdersOf_relink ..) fun x => ?_
    rw [liveLinks, hheld, linksOf_relink x _ (Nat.not_le.mp hs)]
    by_cases hx : s = x
    · -- The link that is added is one to a newcomer.
      subst hx
      have hlast : ([t].filter g.isHeld).filter (· < n) = [] :=
        List.filter_eq_nil_iff.mpr fun y hy hyn => by
          obtain rfl := List.mem_singleton.mp (List.mem_filter.mp hy).1
          exact Nat.not_lt.mpr ht (of_decide_eq_true hyn)
      have hheld' : ((g.linksOf s).filter g.isHeld).filter g.isHeld =
          (g.linksOf s).filter g.isHeld :=
        List.filter_eq_self.mpr fun y hy => (List.mem_filter.mp hy).2
      rw [if_pos rfl, List.filter_append, List.filter_append, hlast, List.append_nil, hheld',
        liveLinks]
    · rw [if_neg hx, liveLinks]

/-- Detaching a newcomer makes no difference: what is taken away are links to it,
    and links that nobody could tell from none. -/
theorem alike_detach (inert : Inert n g) (s : SignalId) (ht : n ≤ t) :
    Alike n g (g.detach s t) := by
  by_cases hs : g.size ≤ s
  · rw [detach_eq, relink_of_size_le _ hs]
    exact .refl inert
  have hheld : (g.detach s t).isHeld = g.isHeld := funext (isHeld_detach g s t)
  refine alike_of_links inert (fun x _ => isCancelled_detach g s t x)
    (fun x _ => holdersOf_detach g s t x) fun x => ?_
  rw [liveLinks, hheld, filter_linksOf_detach t x (Nat.not_le.mp hs), ← liveLinks,
    List.filter_filter]
  refine List.filter_congr fun y _ => ?_
  -- Below `n` no link is one to the newcomer, and from `n` on nothing is compared.
  by_cases hy : y < n
  · have hne : (y == t) = false := beq_false_of_ne (Nat.ne_of_lt (Nat.lt_of_lt_of_le hy ht))
    rw [hne, Bool.and_false, Bool.not_false, Bool.and_true]
  · rw [decide_eq_false hy, Bool.false_and]

/-- When all newcomers are gone, the links are the same. -/
theorem Alike.liveLinks_eq (h : Alike n g g') (hx : x < n) (gone : ∀ y, n ≤ y → g.isHeld y = false)
    (gone' : ∀ y, n ≤ y → g'.isHeld y = false) : g'.liveLinks x = g.liveLinks x := by
  have hall : ∀ h : Signals, (∀ y, n ≤ y → h.isHeld y = false) →
      (h.liveLinks x).filter (· < n) = h.liveLinks x := by
    intro h hgone
    refine List.filter_eq_self.mpr fun y hy => decide_eq_true (Nat.not_le.mp fun hny => ?_)
    exact Bool.false_ne_true ((hgone y hny).symm.trans (mem_liveLinks.mp hy).2)
  rw [← hall g' gone', h.links x hx, hall g gone]

end Signals

end EventFlow
