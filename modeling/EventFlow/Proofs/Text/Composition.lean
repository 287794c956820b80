import EventFlow.Text.Composition
import Mathlib.Algebra.GroupWithZero.Nat

/-!
# Commas in Composed Texts

What composing a text does to the commas in it, which is nothing.

No table can be read in a proof as a whole, since it is written in rows of words
that would have to be evaluated together. What holds of all runs of a table is
therefore shown row by row (`forall_rowWords`), and where the runs begin follows
from the first word alone, because each begins behind the one before it
(`of_mem_runs`). For the pairs of composed characters this says that a comma is
neither a part of a pair nor composed of one. So it is never taken apart and
never composed, and since putting marks in order is a permutation, the commas of
a text can be counted before or after (`count_compose`).

## Theorems

* `CodeTable.of_mem_runs`: The runs of a table that was read.
* `pairTable_comma`: No pair has to do with commas.
* `count_compose`: Composing neither makes nor drops commas.
* `count_le_count_takeApart`: Taking apart drops none.
-/

namespace EventFlow

namespace CodeTable

variable {α : Type} {t : CodeTable α} {c : Char} {start : Nat} {value : α}

/-- What is found in a table is one of its runs. -/
theorem mem_runs_of_find? (h : t.find? c = some (start, value)) : (start, value) ∈ t.runs := by
  unfold find? at h
  split at h
  · rename_i start' value' hrun
    split at h
    · cases h
      exact Array.mem_of_getElem? hrun
    · cases h
  · cases h

/-- The words of a row. -/
def rowWords (row : List Char) : List Word := (Text.splitAt ' ' row).filterMap Word.ofText?

/-- What holds of the words of a row when they are read can be computed from its
    characters. A row is a literal, and it is kept one, so that evaluating it is
    left to the kernel. -/
theorem forall_rowWords {p : Word → Bool} {row : List Char} (h : (rowWords row).all p = true) :
    ∀ w ∈ rowWords (String.ofList row).toList, p w = true := by
  rw [String.toList_ofList]
  exact List.all_eq_true.mp h

/-- What holds of the words of each row holds of all words. -/
theorem forall_words {p : Word → Bool} {rows : List String}
    (h : ∀ row ∈ rows, ∀ w ∈ rowWords row.toList, p w = true) : ∀ w ∈ words rows, p w = true := by
  intro w hw
  rcases List.mem_flatMap.mp hw with ⟨row, hrow, hw⟩
  exact h row hrow w hw

/-- The first words of some rows are those of the first row, if that has enough. -/
theorem take_words_cons {row : List Char} {rows : List String} {first : List Word} {n : Nat}
    (h : (rowWords row).take n = first) (hn : first.length = n) :
    (words (String.ofList row :: rows)).take n = first := by
  have hwords : words (String.ofList row :: rows) = rowWords row ++ words rows := by
    rw [words, List.flatMap_cons, String.toList_ofList]
    rfl
  have hlength : n ≤ (rowWords row).length := by
    rw [← hn, ← h]
    exact List.length_take_le' n _
  rw [hwords, List.take_append_of_le_length hlength, h]

variable {read : Char → List Nat → α} {ws : List Word} {run : Nat × α}

/-- Runs begin one after the other, and their values are those of words. The first
    of them begins a gap behind the start, and all others further on. -/
theorem of_mem_place (h : run ∈ place read start ws) :
    start + (ws.head?.map Word.gap).getD 0 ≤ run.1 ∧ ∃ w ∈ ws, run.2 = read w.kind w.numbers := by
  induction ws generalizing start with
  | nil => cases h
  | cons w ws ih =>
      rw [place, List.mem_cons] at h
      rcases h with rfl | h
      · exact ⟨Nat.le_refl _, w, .head _, rfl⟩
      · rcases ih h with ⟨hle, w', hw', hvalue⟩
        exact ⟨Nat.le_trans (Nat.le_add_right _ _) hle, w', .tail _ hw', hvalue⟩

/-- Words behind others begin where the gaps of those have led. -/
theorem place_append (before after : List Word) : place read start (before ++ after) =
    place read start before ++ place read (start + (before.map Word.gap).sum) after := by
  induction before generalizing start with
  | nil => rfl
  | cons w before ih =>
      rw [List.cons_append, place, place, ih, List.map_cons, List.sum_cons, Nat.add_assoc]
      rfl

/-- The runs of a table that was read are those of its first words, or begin no
    earlier than the next one says. Only so many words have to be evaluated to know
    where all others lie. -/
theorem of_mem_runs {rows : List String} {before : List Word} {w : Word} {n : Nat}
    (first : (words rows).take n = before ++ [w])
    (h : run ∈ (ofRows read rows).runs) : run ∈ place read 0 before ∨
      (before.map Word.gap).sum + w.gap ≤ run.1 ∧
        ∃ w ∈ words rows, run.2 = read w.kind w.numbers := by
  have hwords := List.take_append_drop n (words rows)
  rw [first, List.append_assoc, List.singleton_append] at hwords
  have hmem : run ∈ place read 0 (words rows) := List.mem_toArray.mp h
  rw [← hwords, place_append, List.mem_append, Nat.zero_add] at hmem
  refine hmem.imp id fun hrun => ?_
  rcases of_mem_place hrun with ⟨hle, w', hw', hvalue⟩
  exact ⟨hle, w', hwords ▸ List.mem_append_right before hw', hvalue⟩

end CodeTable

namespace Text

/-- No pair has a comma in it. The rows are gone through one by one, each by
    computation. -/
theorem pairRows_comma : ∀ row ∈ pairRows, ∀ w ∈ CodeTable.rowWords row.toList,
    (!w.numbers.contains 44) = true := by
  unfold pairRows
  repeat' first
    | exact List.forall_mem_nil _
    | refine List.forall_mem_cons.mpr ⟨CodeTable.forall_rowWords (by decide +kernel), ?_⟩

/-- The first pair is that of a character beyond the comma. -/
theorem pairRows_first : (CodeTable.words pairRows).take 1 = [⟨224, 'P', [97, 768]⟩] := by
  unfold pairRows
  exact CodeTable.take_words_cons (by decide +kernel) rfl

/-- No other number is that of a comma. A number that is none of a character counts
    as that of another one. -/
theorem ofNat_ne_comma {n : Nat} (h : n ≠ 44) : Char.ofNat n ≠ ',' := by
  intro heq
  by_cases hvalid : n.isValidChar
  · have hn : Char.ofNat n = Char.ofNatAux n hvalid := dif_pos hvalid
    exact h (congrArg Char.toNat (hn.symm.trans heq))
  · have hn : Char.ofNat n = '\x00' := dif_neg hvalid
    exact absurd (hn.symm.trans heq) (by decide)

/-- A pair of numbers without that of the comma is one of other characters. -/
theorem pairOf_comma {numbers : List Nat} (h : (!numbers.contains 44) = true) :
    (pairOf numbers).1 ≠ ',' ∧ (pairOf numbers).2 ≠ ',' := by
  unfold pairOf
  split
  · simp only [List.contains_cons, List.contains_nil, Bool.or_false, Bool.not_or, Bool.and_eq_true,
      Bool.not_eq_true', beq_eq_false_iff_ne] at h
    exact ⟨ofNat_ne_comma h.1.symm, ofNat_ne_comma h.2.symm⟩
  · exact ⟨by decide, by decide⟩

/-- Every pair of the table is that of a character beyond the comma, and has no
    comma in it. -/
theorem pairTable_comma {run : Nat × Char × Char} (h : run ∈ pairTable.runs) :
    44 < run.1 ∧ run.2.1 ≠ ',' ∧ run.2.2 ≠ ',' := by
  rcases CodeTable.of_mem_runs (pairRows_first.trans (List.nil_append _).symm) h with
    hnone | ⟨hle, w, hw, hvalue⟩
  · exact absurd hnone List.not_mem_nil
  · rw [hvalue]
    exact ⟨Nat.lt_of_lt_of_le (by decide) hle,
      pairOf_comma (CodeTable.forall_words pairRows_comma w hw)⟩

/-- A comma is not taken apart. -/
theorem splitPair?_comma : splitPair? ',' = none := by
  have hnone : pairTable.find? ',' = none := by
    rw [Option.eq_none_iff_forall_ne_some]
    rintro ⟨start, pair⟩ hfind
    have hlt : 44 < start := (pairTable_comma (CodeTable.mem_runs_of_find? hfind)).1
    have hle : start ≤ 44 := CodeTable.le_of_find? hfind
    -- All runs begin behind the comma, so it is in none of them.
    omega
  rw [splitPair?, hnone, Option.bind_none]

/-- Syllables are joined of parts that all lie in a range of their own, far behind
    the comma. -/
theorem joinSyllable?_comma {first second joined : Char}
    (h : joinSyllable? first second = some joined) :
    first ≠ ',' ∧ second ≠ ',' ∧ joined ≠ ',' := by
  have hne : ∀ c : Char, 0x1100 ≤ c.toNat → c ≠ ',' := by
    rintro c hc rfl
    exact absurd hc (by decide)
  unfold joinSyllable? at h
  simp only [Bool.and_eq_true, decide_eq_true_eq] at h
  split at h
  · rename_i hrange
    obtain rfl := Option.some.inj h
    exact ⟨hne _ (by omega), hne _ (by omega), ofNat_ne_comma (by omega)⟩
  split at h
  · rename_i hrange
    obtain rfl := Option.some.inj h
    exact ⟨hne _ (by omega), hne _ (by omega), ofNat_ne_comma (by omega)⟩
  · exact absurd h (Option.some_ne_none joined).symm

/-- Characters that are joined are no commas, and neither is what comes of them. -/
theorem join?_comma {first second joined : Char} (h : join? first second = some joined) :
    first ≠ ',' ∧ second ≠ ',' ∧ joined ≠ ',' := by
  unfold join? at h
  rcases Option.or_eq_some_iff.mp h with hsyllable | ⟨-, hpair⟩
  · exact joinSyllable?_comma hsyllable
  · unfold joinPair? at hpair
    rcases Option.map_eq_some_iff.mp hpair with ⟨run, hfind, rfl⟩
    rcases pairTable_comma (Array.mem_of_find?_eq_some hfind) with ⟨hlt, hfirst, hsecond⟩
    have hrun := Array.find?_some hfind
    rw [beq_iff_eq] at hrun
    rw [hrun] at hfirst hsecond
    exact ⟨hfirst, hsecond, ofNat_ne_comma (by omega)⟩

/-! ## Composing -/

/-- A mark is put among others, and nothing else happens to them. -/
theorem perm_insertMark (mark : Char) (s : List Char) : (insertMark mark s).Perm (mark :: s) := by
  induction s with
  | nil => exact .refl _
  | cons c s ih =>
      rw [insertMark]
      split
      · exact (ih.cons c).trans (.swap mark c s)
      · exact .refl _

/-- Putting marks in order is a permutation. -/
theorem perm_orderMarks (s : List Char) : (orderMarks s).Perm s := by
  induction s with
  | nil => exact .refl _
  | cons c s ih =>
      rw [orderMarks]
      split
      · exact ih.cons c
      · exact (perm_insertMark c _).trans (ih.cons c)

/-- At the end, the marks that were kept follow their base. -/
theorem composeBehind_nil (base : Char) (marks : List Char) :
    composeBehind base marks [] = base :: marks.reverse := rfl

/-- Composes the next character with the one before, if it is reached, and goes on. -/
def composeOne (isReached : Bool) (base : Char) (marks : List Char) (c : Char) (s : List Char) :
    List Char :=
  match if isReached then join? base c else none with
  | some joined => composeBehind joined marks s
  | none =>
    if combiningClass c = 0 then base :: (marks.reverse ++ composeBehind c [] s)
    else composeBehind base (c :: marks) s

/-- What composing does with the next character: it goes into the one before, or
    the text goes on with it, or it is a mark that is kept for later. -/
theorem composeBehind_cons (base : Char) (marks : List Char) (c : Char) (s : List Char) :
    (∃ joined, join? base c = some joined ∧
      composeBehind base marks (c :: s) = composeBehind joined marks s) ∨
    composeBehind base marks (c :: s) = base :: (marks.reverse ++ composeBehind c [] s) ∨
    composeBehind base marks (c :: s) = composeBehind base (c :: marks) s := by
  -- The marks only say whether the character is reached.
  have hreached : ∃ isReached, composeBehind base marks (c :: s) =
      composeOne isReached base marks c s := ⟨_, rfl⟩
  rcases hreached with ⟨isReached, heq⟩
  rw [heq, composeOne]
  split
  · rename_i joined hjoined
    exact .inl ⟨joined, (Option.ite_none_right_eq_some.mp hjoined).2, rfl⟩
  · by_cases hclass : combiningClass c = 0
    · exact .inr (.inl (if_pos hclass))
    · exact .inr (.inr (if_neg hclass))

/-- Composing behind a base keeps the commas of all that is still to come, the base
    and the marks included. The induction is on the text, with both left open. -/
theorem count_composeBehind (base : Char) (marks s : List Char) :
    (composeBehind base marks s).count ',' = (base :: (marks ++ s)).count ',' := by
  induction s generalizing base marks with
  | nil =>
      rw [composeBehind_nil, List.count_cons, List.count_cons, List.count_reverse, List.append_nil]
  | cons c s ih =>
      rcases composeBehind_cons base marks c s with ⟨joined, hjoined, heq⟩ | heq | heq
      · -- None of the three is a comma, so none is gained or lost.
        rcases join?_comma hjoined with ⟨hbase, hc, hj⟩
        rw [heq, ih, List.count_cons_of_ne hj, List.count_cons_of_ne hbase, List.count_append,
          List.count_append, List.count_cons_of_ne hc]
      · rw [heq, List.count_cons, List.count_cons, List.count_append, List.count_append,
          List.count_reverse, ih, List.nil_append]
      · rw [heq, ih, List.count_cons, List.count_cons, List.cons_append, List.count_cons,
          List.count_append, List.count_append, List.count_cons]
        omega

/-- So does composing a text whose marks are in order. -/
theorem count_composeOrdered (s : List Char) : (composeOrdered s).count ',' = s.count ',' := by
  induction s with
  | nil => rfl
  | cons c s ih =>
      rw [composeOrdered]
      split
      · rw [count_composeBehind, List.nil_append]
      · rw [List.count_cons, List.count_cons, ih]

/-- Composing a text keeps the commas that are there when it is apart. -/
theorem count_compose (s : List Char) : (compose s).count ',' = (takeApart s).count ',' := by
  rw [compose, count_composeOrdered, (perm_orderMarks _).count_eq]

/-- However often characters are taken apart, a comma stays itself. -/
theorem takeApartChar_comma (depth : Nat) : takeApartChar depth ',' = [','] := by
  cases depth with
  | zero => rfl
  | succ depth => rw [takeApartChar, splitPair?_comma, Option.elim_none]

/-- Taking a text apart loses no comma. -/
theorem count_le_count_takeApart (s : List Char) : s.count ',' ≤ (takeApart s).count ',' := by
  induction s with
  | nil => exact Nat.le_refl _
  | cons c s ih =>
      rw [takeApart, List.flatMap_cons, List.count_append, List.count_cons]
      -- Another character may even have a comma among its parts, as far as this goes.
      by_cases hc : c = ','
      · rw [hc, takeApartChar_comma]
        simp only [beq_self_eq_true, if_true, List.count_singleton_self]
        unfold takeApart at ih
        omega
      · rw [if_neg (by simpa using hc)]
        unfold takeApart at ih
        omega

end Text

end EventFlow
