import EventFlow.Proofs.Text.Stripping

/-!
# Divided Texts

What becomes of the pieces of a text when texts are joined.

Dividing at a character is the library's, so what is known there of joining the
pieces again is known here (`splitAt_eq`). Joining texts with the character that
they are divided at does not undo dividing unless the texts are free of it: the
pieces are those of each text, one after the other (`splitAt_intercalate`). A text
that is only put behind another one, without such a character in it, becomes part
of the last piece (`exists_splitOnP_append`).

## Theorems

* `splitAt_intercalate`: The pieces of texts that were joined.
* `intercalate_splitAt`: Pieces are joined to the text again.
* `exists_splitOnP_append`: What is put behind a text belongs to its last piece.
-/

namespace EventFlow

namespace Text

/-- Dividing a text is what the library calls so. -/
theorem splitAt_eq (sep : Char) (s : List Char) : splitAt sep s = s.splitOn sep := by
  induction s with
  | nil => rfl
  | cons c s ih =>
      rw [splitAt, List.splitOn_cons_eq_if_modifyHead, ih]
      by_cases hc : c = sep
      · rw [if_pos hc, if_pos (beq_iff_eq.mpr hc)]
      · rw [if_neg hc, if_neg (by simpa using hc)]
        cases hpieces : s.splitOn sep with
        | nil => exact absurd hpieces (List.splitOn_ne_nil sep s)
        | cons piece pieces => rfl

/-- A text without the character is in one piece. -/
theorem splitAt_of_not_mem {sep : Char} {s : List Char} (h : sep ∉ s) : splitAt sep s = [s] := by
  rw [splitAt_eq, List.splitOn_eq_singleton h]

/-- The character separates the pieces before it from those behind it. -/
theorem splitAt_append_cons (sep : Char) (s t : List Char) :
    splitAt sep (s ++ sep :: t) = splitAt sep s ++ splitAt sep t := by
  simp only [splitAt_eq, List.splitOn_append_cons_self]

/-- Pieces are joined to the text again. -/
theorem intercalate_splitAt (sep : Char) (s : List Char) :
    [sep].intercalate (splitAt sep s) = s := by
  rw [splitAt_eq, List.intercalate_splitOn]

/-- The pieces of texts that were joined are those of each. Nothing shows any more
    where one text ended, if it has a separator in itself. -/
theorem splitAt_intercalate (sep : Char) {texts : List (List Char)} (h : texts ≠ []) :
    splitAt sep ([sep].intercalate texts) = texts.flatMap (splitAt sep) := by
  induction texts with
  | nil => exact absurd rfl h
  | cons text texts ih =>
      -- The last text has no separator behind it.
      cases texts with
      | nil => rw [List.intercalate_singleton, List.flatMap_singleton]
      | cons next texts =>
          rw [List.intercalate_cons_cons, List.append_assoc, List.singleton_append,
            splitAt_append_cons, ih (List.cons_ne_nil _ _)]
          rfl

/-- Every other character is in one of the pieces: dividing a text loses the
    separators and nothing else. -/
theorem exists_mem_splitAt {sep c : Char} (hc : c ≠ sep) {s : List Char} (h : c ∈ s) :
    ∃ piece ∈ splitAt sep s, c ∈ piece := by
  rcases List.append_of_mem h with ⟨before, after, rfl⟩
  clear h
  -- On what is in front of the character: that only moves its piece back or makes it longer.
  induction before with
  | nil =>
      rw [List.nil_append, splitAt, if_neg hc]
      split
      · exact ⟨_, .head _, .head _⟩
      · exact ⟨_, .head _, .head _⟩
  | cons d before ih =>
      rcases ih with ⟨piece, hpiece, hmem⟩
      rw [List.cons_append, splitAt]
      split
      · exact ⟨piece, .tail _ hpiece, hmem⟩
      · split
        · rename_i hnil
          exact absurd hnil (splitAt_ne_nil sep _)
        · rename_i first pieces hpieces
          rw [hpieces] at hpiece
          rcases List.mem_cons.mp hpiece with rfl | hpiece
          · exact ⟨_, .head _, .tail _ hmem⟩
          · exact ⟨piece, .tail _ hpiece, hmem⟩

/-- What is put behind a text belongs to its last piece, if it has no place to
    divide at. -/
theorem exists_splitOnP_append {p : Char → Bool} {t : List Char} (h : ∀ c ∈ t, p c = false)
    (s : List Char) : ∃ front last, s.splitOnP p = front ++ [last] ∧
      (s ++ t).splitOnP p = front ++ [last ++ t] := by
  induction s with
  | nil => exact ⟨[], [], rfl, by rw [List.nil_append, List.splitOnP_eq_singleton h]; rfl⟩
  | cons c s ih =>
      rcases ih with ⟨front, last, hs, hst⟩
      rw [List.cons_append, List.splitOnP_cons_eq_if_modifyHead, hs,
        List.splitOnP_cons_eq_if_modifyHead, hst]
      by_cases hc : p c = true
      · -- A new piece begins, and what is last stays last.
        rw [if_pos hc, if_pos hc]
        exact ⟨[] :: front, last, rfl, rfl⟩
      · rw [if_neg hc, if_neg hc]
        cases front with
        | nil => exact ⟨[], c :: last, rfl, rfl⟩
        | cons piece front => exact ⟨(c :: piece) :: front, last, rfl, rfl⟩

/-- A text with the character in it is divided where the character is first. -/
theorem exists_divided {sep : Char} {s : String} (h : sep ∈ s.toList) : ∃ front rest : String,
    s.toList = front.toList ++ sep :: rest.toList ∧ sep ∉ front.toList := by
  rcases List.eq_append_cons_of_mem h with ⟨front, rest, hs, hfront⟩
  exact ⟨String.ofList front, String.ofList rest,
    by rw [String.toList_ofList, String.toList_ofList, hs], by rwa [String.toList_ofList]⟩

/-! ## Where a class ends -/

variable {p : Char → Bool} {s t : List Char}

/-- What is left begins with a character that is not of the class. -/
theorem exists_cons_dropWhile (h : s.dropWhile p ≠ []) :
    ∃ c rest, s.dropWhile p = c :: rest ∧ p c = false := by
  rcases List.exists_cons_of_ne_nil h with ⟨c, rest, hc⟩
  exact ⟨c, rest, hc, head_dropWhile p s c (by rw [hc]; rfl)⟩

/-- What is put behind a text without characters of a class does not change where
    the text is left. -/
theorem dropWhile_append_of_head (h : ∀ c ∈ t.head?, p c = false) (s : List Char) :
    (s ++ t).dropWhile p = s.dropWhile p ++ t := by
  rw [List.dropWhile_append]
  split
  · rename_i hnil
    rw [List.isEmpty_iff.mp hnil, dropWhile_of_head h]
    rfl
  · rfl

/-- Once something is left, what is put behind it is left as well. -/
theorem dropWhile_append_of_ne_nil (h : s.dropWhile p ≠ []) (t : List Char) :
    (s ++ t).dropWhile p = s.dropWhile p ++ t := by
  rw [List.dropWhile_append, if_neg (mt List.isEmpty_iff.mp h)]

/-- And what is taken is what was taken before. -/
theorem takeWhile_append_of_ne_nil (h : s.dropWhile p ≠ []) (t : List Char) :
    (s ++ t).takeWhile p = s.takeWhile p := by
  -- Both are the beginning of one text, in front of the same rest.
  have hsplit : (s ++ t).takeWhile p ++ (s.dropWhile p ++ t) =
      s.takeWhile p ++ (s.dropWhile p ++ t) := by
    rw [← dropWhile_append_of_ne_nil h, List.takeWhile_append_dropWhile,
      dropWhile_append_of_ne_nil h, ← List.append_assoc, List.takeWhile_append_dropWhile]
  exact List.append_cancel_right hsplit

/-- What is put behind a text, all of a class, goes on with it if all of the text is
    of the class, and otherwise follows what is left of it. -/
theorem takeWhile_dropWhile_append (h : ∀ c ∈ t, p c = true) (s : List Char) :
    (s.takeWhile p = s ∧ s.dropWhile p = [] ∧
      (s ++ t).takeWhile p = s ++ t ∧ (s ++ t).dropWhile p = []) ∨
    (s.dropWhile p ≠ [] ∧
      (s ++ t).takeWhile p = s.takeWhile p ∧ (s ++ t).dropWhile p = s.dropWhile p ++ t) := by
  by_cases hs : s.dropWhile p = []
  · have hall := List.dropWhile_eq_nil_iff.mp hs
    have happend := List.forall_mem_append.mpr ⟨hall, h⟩
    exact .inl ⟨List.takeWhile_eq_self_iff.mpr hall, hs, List.takeWhile_eq_self_iff.mpr happend,
      List.dropWhile_eq_nil_iff.mpr happend⟩
  · exact .inr ⟨hs, takeWhile_append_of_ne_nil hs t, dropWhile_append_of_ne_nil hs t⟩

end Text

end EventFlow
