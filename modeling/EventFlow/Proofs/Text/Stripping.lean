import EventFlow.Text.Blank
import Mathlib.Data.List.Basic
import Mathlib.Data.List.TakeWhile

/-!
# Stripped Texts

What is left of a text when the characters of a class are taken from its ends.

A text is stripped if it neither begins nor ends with such a character.
Stripping leaves a stripped text (`stripped_strip`), and it leaves a stripped
text as it is, with whatever was put around it gone (`strip_append`). The two
together say that what is left is the only stripped text that the original is
made of by putting characters of the class around it.

## Main definitions

* `Text.Stripped`: A text with nothing to be taken from its ends.

## Theorems

* `stripped_strip`: What is left is stripped.
* `strip_append`: What was put around a stripped text is taken away.
* `exists_append_strip`: What is taken away.
-/

namespace EventFlow

namespace Text

variable {p : Char → Bool} {s before after : List Char}

/-- A text that neither begins nor ends with a character of a class. Inside there
    may be some. -/
structure Stripped (p : Char → Bool) (s : List Char) : Prop where
  head : ∀ c ∈ s.head?, p c = false
  last : ∀ c ∈ s.getLast?, p c = false

instance : Decidable (Stripped p s) :=
  decidable_of_iff (s.head?.any p = false ∧ s.getLast?.any p = false) <| by
    have hany : ∀ end? : Option Char, end?.any p = false ↔ ∀ c ∈ end?, p c = false := by
      rintro (_ | c) <;> simp
    rw [hany, hany]
    exact ⟨fun ⟨head, last⟩ => ⟨head, last⟩, fun h => ⟨h.head, h.last⟩⟩

/-- Where nothing has to be dropped at the beginning, nothing is. -/
theorem dropWhile_of_head (h : ∀ c ∈ s.head?, p c = false) : s.dropWhile p = s := by
  cases s with
  | nil => rfl
  | cons c rest => exact List.dropWhile_cons_of_neg (by simp [h c rfl])

/-- What is left does not begin with a character of the class. -/
theorem head_dropWhile (p : Char → Bool) (s : List Char) :
    ∀ c ∈ (s.dropWhile p).head?, p c = false := by
  intro c hc
  have hstop := List.head?_dropWhile_not p s
  rw [hc] at hstop
  exact hstop

/-- Nothing is taken from a stripped text. -/
theorem strip_of_stripped (h : Stripped p s) : strip p s = s := by
  have hlast : ∀ c ∈ s.reverse.head?, p c = false := by
    rw [List.head?_reverse]
    exact h.last
  rw [strip, dropWhile_of_head h.head, dropWhile_of_head hlast, List.reverse_reverse]

/-- What is taken from the ends of a text consists of characters of the class. -/
theorem exists_append_strip (p : Char → Bool) (s : List Char) : ∃ before after,
    s = before ++ strip p s ++ after ∧ (∀ c ∈ before, p c = true) ∧ ∀ c ∈ after, p c = true := by
  refine ⟨s.takeWhile p, ((s.dropWhile p).reverse.takeWhile p).reverse, ?_,
    fun c hc => List.mem_takeWhile_imp hc,
    fun c hc => List.mem_takeWhile_imp (List.mem_reverse.mp hc)⟩
  -- Put together again from behind: the end first, then the beginning.
  rw [strip, List.append_assoc, ← List.reverse_append, List.takeWhile_append_dropWhile,
    List.reverse_reverse, List.takeWhile_append_dropWhile]

/-- Nothing is left of a text exactly if all of it is of the class. -/
theorem strip_eq_nil_iff : strip p s = [] ↔ ∀ c ∈ s, p c = true := by
  constructor
  · intro hnil c hc
    rcases exists_append_strip p s with ⟨before, after, hs, hbefore, hafter⟩
    -- All of it was taken away, and only characters of the class are.
    rw [hs, hnil, List.append_nil] at hc
    exact (List.mem_append.mp hc).elim (hbefore c) (hafter c)
  · intro hall
    rw [strip, List.dropWhile_eq_nil_iff.mpr hall]
    rfl

/-- What is left of a text begins as the text does without what is taken from its
    beginning. -/
theorem exists_dropWhile_eq (p : Char → Bool) (s : List Char) :
    ∃ after, s.dropWhile p = strip p s ++ after := by
  refine ⟨((s.dropWhile p).reverse.takeWhile p).reverse, ?_⟩
  rw [strip, ← List.reverse_append, List.takeWhile_append_dropWhile, List.reverse_reverse]

/-- What is left of a text is stripped. -/
theorem stripped_strip (p : Char → Bool) (s : List Char) : Stripped p (strip p s) where
  head := by
    -- Its beginning is that of what was left in the first place.
    rcases exists_dropWhile_eq p s with ⟨after, hsplit⟩
    intro c hc
    refine head_dropWhile p s c ?_
    rw [hsplit, List.head?_append, hc]
    rfl
  last := by
    rw [strip, List.getLast?_reverse]
    exact head_dropWhile p _

/-- What was put around a stripped text is taken away, and no more than that. The
    text must not be empty: it is what tells the two sides apart. -/
theorem strip_append (h : Stripped p s) (hne : s ≠ []) (hbefore : ∀ c ∈ before, p c = true)
    (hafter : ∀ c ∈ after, p c = true) : strip p (before ++ s ++ after) = s := by
  have hhead : ∀ c ∈ (s ++ after).head?, p c = false := by
    rw [List.head?_append_of_ne_nil _ hne]
    exact h.head
  have hlast : ∀ c ∈ s.reverse.head?, p c = false := by
    rw [List.head?_reverse]
    exact h.last
  rw [strip, List.append_assoc, List.dropWhile_append_of_pos hbefore, dropWhile_of_head hhead,
    List.reverse_append,
    List.dropWhile_append_of_pos fun c hc => hafter c (List.mem_reverse.mp hc),
    dropWhile_of_head hlast, List.reverse_reverse]

/-- What is put behind a text, with more than characters of the class in it, only
    adds to what is left of the text. What stood at its end comes to stand inside. -/
theorem exists_strip_append (hbefore : ∀ c ∈ before, p c = true) (hs : strip p s ≠ [])
    (ht : strip p t ≠ []) : ∃ more, strip p (before ++ s ++ t) = strip p s ++ more ∧
      (∀ c ∈ more, p c = true ∨ c ∈ t) ∧ ∀ c ∈ t, p c = false → c ∈ more := by
  rcases exists_append_strip p s with ⟨sBefore, sAfter, hsplit, hsBefore, hsAfter⟩
  rcases exists_append_strip p t with ⟨tBefore, tAfter, htSplit, htBefore, htAfter⟩
  refine ⟨sAfter ++ tBefore ++ strip p t, ?_, fun c hc => ?_, fun c hc hp => ?_⟩
  · -- Between the first character that is kept and the last one, everything is kept.
    have htext : before ++ s ++ t = (before ++ sBefore) ++
        (strip p s ++ (sAfter ++ tBefore ++ strip p t)) ++ tAfter := by
      conv_lhs => rw [hsplit, htSplit]
      simp only [List.append_assoc]
    have hhead : ∀ c ∈ (strip p s ++ (sAfter ++ tBefore ++ strip p t)).head?, p c = false := by
      rw [List.head?_append_of_ne_nil _ hs]
      exact (stripped_strip p s).head
    have hlast : ∀ c ∈ (strip p s ++ (sAfter ++ tBefore ++ strip p t)).getLast?, p c = false := by
      rw [← List.append_assoc, List.getLast?_append_of_ne_nil _ ht]
      exact (stripped_strip p t).last
    rw [htext]
    exact strip_append ⟨hhead, hlast⟩ (List.append_ne_nil_of_left_ne_nil hs _)
      (List.forall_mem_append.mpr ⟨hbefore, hsBefore⟩) htAfter
  · rcases List.mem_append.mp hc with hc | hc
    · exact .inl ((List.mem_append.mp hc).elim (hsAfter c) (htBefore c))
    · rw [htSplit]
      exact .inr (List.mem_append_left _ (List.mem_append_right _ hc))
  · rw [htSplit] at hc
    rcases List.mem_append.mp hc with hc | hc
    · rcases List.mem_append.mp hc with hc | hc
      · exact absurd (htBefore c hc) (Bool.eq_false_iff.mp hp)
      · exact List.mem_append_right _ hc
    · exact absurd (htAfter c hc) (Bool.eq_false_iff.mp hp)

/-- Stripping twice is stripping once. -/
theorem strip_strip (p : Char → Bool) (s : List Char) : strip p (strip p s) = strip p s :=
  strip_of_stripped (stripped_strip p s)

/-- And so is trimming, which is stripping of white space. -/
theorem trim_trim (s : String) : trim (trim s) = trim s := by
  rw [trim, trim, String.toList_ofList, strip_strip]

end Text

end EventFlow
