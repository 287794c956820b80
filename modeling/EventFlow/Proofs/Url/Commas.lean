import EventFlow.Proofs.Text.Composition
import EventFlow.Proofs.Text.Division
import EventFlow.Proofs.Url.Segments
import EventFlow.Url.Reader

/-!
# Commas in Domain Names

How many commas a domain name has when it is looked up.

A name of ASCII characters only becomes small letters, and a comma is none. Any other
name is mapped, taken apart and composed, and its labels are written in punycode. The
table of the mapping says in its first words that a comma stays (`mapChar?_comma`),
composing keeps the commas that there are, and punycode writes the ASCII characters
of a label first and then digits, none of which is a comma (`count_encode`). Mapping
and taking apart work character by character, so what is put behind a name adds at
least its own commas (`count_lt_of_toAscii?`). Both forms can meet here: a name may be
ASCII only without what is behind it.

## Theorems

* `Punycode.count_encode`: A label keeps its commas.
* `count_of_international`: So does a name, from when it was taken apart.
* `count_lt_of_toAscii?`: More commas behind a name are more commas in the end.
-/

namespace EventFlow

/-! ## Labels -/

namespace Punycode

/-- A digit of punycode is a letter or a decimal digit. -/
theorem digitChar_ne_comma (d : Nat) : digitChar d ≠ ',' := by
  unfold digitChar
  split <;> exact Text.ofNat_ne_comma (by omega)

/-- So a number in punycode has no comma. -/
theorem count_digits (bias k n : Nat) : (digits bias k n).count ',' = 0 := by
  fun_induction digits bias k n with
  | case1 => exact List.count_eq_zero.mpr (by simp [(digitChar_ne_comma _).symm])
  | case2 k n t hlt ih => rw [List.count_cons_of_ne (digitChar_ne_comma _), ih]

/-- A pass over one character of a label writes a number at most. -/
theorem count_pass (ascii turn : Nat) (w : Writer) (c : Char) :
    (w.pass ascii turn c).written.count ',' = w.written.count ',' := by
  unfold Writer.pass
  split
  · rfl
  split
  · rw [List.count_append, count_digits, Nat.add_zero]
  · rfl

/-- And so do all passes over all of its characters. What is counted on the way
    makes no difference to that. -/
theorem count_passAll (label : List Char) (ascii low : Nat) (w : Writer) (turns : List Nat) :
    (w.passAll label ascii low turns).written.count ',' = w.written.count ',' := by
  have hfold : ∀ (turn : Nat) (s : List Char) (w : Writer),
      (s.foldl (Writer.pass ascii turn) w).written.count ',' = w.written.count ',' := by
    intro turn s
    induction s with
    | nil => exact fun w => rfl
    | cons c s ih => exact fun w => (ih _).trans (count_pass ascii turn w c)
  -- Every turn passes over the whole label.
  induction turns generalizing low w with
  | nil => rfl
  | cons turn turns ih => exact (ih _ _).trans (hfold turn label _)

/-- A label in writing has the commas of the label. -/
theorem count_encode (label : List Char) : (encode label).count ',' = label.count ',' := by
  -- The ASCII characters are written first, and the comma is one of them.
  have hascii : (label.filter isAscii).count ',' = label.count ',' :=
    List.count_filter (by decide)
  have hhyphen : (if (label.filter isAscii).isEmpty then [] else ['-']).count ',' = 0 := by
    split <;> rfl
  unfold encode
  rw [List.count_append, List.count_append, hascii, hhyphen, count_passAll]
  rfl

end Punycode

/-! ## Names -/

namespace Domain

/-- The first two runs of the mapping: all up to the capital letters stays, and then
    there is another one. -/
theorem mappingRows_first : (CodeTable.words mappingRows).take 2 =
    [⟨0, 'V', []⟩] ++ [⟨65, 'S', [97]⟩] := by
  unfold mappingRows
  exact CodeTable.take_words_cons (by decide +kernel) rfl

/-- A comma stays, if it is not refused. -/
theorem mapChar?_comma {s : List Char} (h : mapChar? ',' = some s) : s = [','] := by
  unfold mapChar? at h
  rcases Option.bind_eq_some_iff.mp h with ⟨⟨start, fate⟩, hfind, hfate⟩
  have hle : start ≤ 44 := CodeTable.le_of_find? hfind
  -- Only the first run begins in front of it.
  rcases CodeTable.of_mem_runs mappingRows_first (CodeTable.mem_runs_of_find? hfind) with
    hfirst | ⟨hlt, -⟩
  · cases List.mem_singleton.mp hfirst
    exact (Option.some.inj hfate).symm
  · have hlt : 65 ≤ start := hlt
    omega

/-- Mapping loses no comma. Other characters may be mapped to texts that have some. -/
theorem count_le_of_mapText? {s mapped : List Char} (h : mapText? s = some mapped) :
    s.count ',' ≤ mapped.count ',' := by
  unfold mapText? at h
  rcases Option.map_eq_some_iff.mp h with ⟨pieces, hpieces, rfl⟩
  clear h
  induction s generalizing pieces with
  | nil => exact Nat.zero_le _
  | cons c s ih =>
      rw [List.mapM_cons] at hpieces
      rcases Option.bind_eq_some_iff.mp hpieces with ⟨first, hfirst, hothers⟩
      rcases Option.bind_eq_some_iff.mp hothers with ⟨others, hmap, hconcat⟩
      obtain rfl := Option.some.inj hconcat
      have hle := ih others hmap
      rw [List.flatten_cons, List.count_append, List.count_cons]
      by_cases hc : c = ','
      · rw [hc] at hfirst
        rw [hc, mapChar?_comma hfirst, List.count_singleton_self, if_pos (beq_self_eq_true _)]
        omega
      · rw [if_neg (by simpa using hc)]
        omega

/-- Mapping works character by character, so texts are mapped one after the other. -/
theorem mapText?_append {s t mapped : List Char} (h : mapText? (s ++ t) = some mapped) :
    ∃ front back, mapText? s = some front ∧ mapText? t = some back ∧ mapped = front ++ back := by
  unfold mapText? at h ⊢
  rw [List.mapM_append] at h
  rcases Option.map_eq_some_iff.mp h with ⟨pieces, hpieces, rfl⟩
  rcases Option.bind_eq_some_iff.mp hpieces with ⟨front, hfront, hothers⟩
  rcases Option.bind_eq_some_iff.mp hothers with ⟨back, hback, hconcat⟩
  obtain rfl := Option.some.inj hconcat
  exact ⟨front.flatten, back.flatten, by rw [hfront]; rfl, by rw [hback]; rfl, List.flatten_append⟩

/-- A label has the commas that it is looked up with. -/
theorem count_of_labelOf? {label : List Char} {read : Label} (h : labelOf? label = some read) :
    read.ascii.count ',' = label.count ',' := by
  unfold labelOf? at h
  split at h
  · -- A label with a mark is looked up as it is.
    unfold decoded? at h
    dsimp only at h
    split at h
    · cases h
    · rcases Option.bind_eq_some_iff.mp h with ⟨text, -, hrest⟩
      split at hrest
      · cases hrest
      · rw [← Option.some.inj hrest]
  split at h
  · rw [← Option.some.inj h]
  split at h
  · -- The mark of punycode has no comma in it.
    rw [← Option.some.inj h, List.count_append, Punycode.count_encode]
    exact Nat.zero_add _
  · cases h

/-- The commas of texts that are joined with points are those of each. -/
theorem count_join (parts : List (List Char)) :
    (join parts).count ',' = (parts.map (List.count ',')).sum := by
  unfold join
  induction parts with
  | nil => rfl
  | cons part parts ih =>
      cases parts with
      | nil => rw [List.intercalate_singleton, List.map_singleton, List.sum_singleton]
      | cons next parts =>
          rw [List.intercalate_cons_cons, List.count_append, List.count_append, ih,
            List.count_singleton, if_neg (by decide), Nat.add_zero]
          rfl

/-- A name is its labels with points between them. -/
theorem join_labels (s : List Char) : join (labels s) = s :=
  Text.intercalate_splitAt '.' s

/-- Label by label, the commas are those that it is looked up with. -/
theorem map_count_of_mapM {labels : List (List Char)} {parts : List Label}
    (h : labels.mapM labelOf? = some parts) :
    (parts.map Label.ascii).map (List.count ',') = labels.map (List.count ',') := by
  induction labels generalizing parts with
  | nil =>
      rw [List.mapM_nil] at h
      obtain rfl := Option.some.inj h
      rfl
  | cons label labels ih =>
      rw [List.mapM_cons] at h
      rcases Option.bind_eq_some_iff.mp h with ⟨first, hfirst, hothers⟩
      rcases Option.bind_eq_some_iff.mp hothers with ⟨others, hmap, hconcat⟩
      obtain rfl := Option.some.inj hconcat
      rw [List.map_cons, List.map_cons, List.map_cons, ih hmap, count_of_labelOf? hfirst]

/-- A name that is not ASCII has the commas that there are when it is mapped and
    taken apart. -/
theorem count_of_international {s name : List Char} (h : internationalToAscii? s = some name) :
    ∃ mapped, mapText? s = some mapped ∧
      name.count ',' = (Text.takeApart mapped).count ',' := by
  unfold internationalToAscii? at h
  rcases Option.bind_eq_some_iff.mp h with ⟨mapped, hmapped, hsettled⟩
  refine ⟨mapped, hmapped, ?_⟩
  -- Composing keeps the commas, and what follows is done with the composed name.
  rw [← Text.count_compose]
  generalize Text.compose mapped = settled at hsettled
  dsimp only at hsettled
  split at hsettled
  · cases hsettled
  · rcases Option.bind_eq_some_iff.mp hsettled with ⟨parts, hparts, hname⟩
    split at hname
    · cases hname
    · -- The name is divided at points and put together at points, which are no commas.
      rw [← Option.some.inj hname, count_join, map_count_of_mapM hparts, ← count_join, join_labels]

/-- Small letters are no commas, and a comma is no letter. -/
theorem count_map_toLower (s : List Char) : (s.map Char.toLower).count ',' = s.count ',' := by
  have hcomma : ∀ c : Char, (c.toLower == ',') = (c == ',') := by
    intro c
    rw [Bool.eq_iff_iff, beq_iff_eq, beq_iff_eq]
    exact ⟨fun hc => UrlPath.toLower_eq hc (.inl (by decide)), fun hc => by rw [hc]; rfl⟩
  rw [List.count_eq_countP, List.countP_map, List.count_eq_countP]
  exact congrArg (List.countP · s) (funext hcomma)

/-- A label with a mark in front keeps it with something behind. -/
theorem isMarked_append {label : List Char} (t : List Char) (h : isMarked label = true) :
    isMarked (label ++ t) = true := by
  -- The mark is in front, where nothing was added.
  unfold isMarked at h ⊢
  rw [List.isPrefixOf_iff_prefix] at h ⊢
  rw [List.map_append]
  exact h.trans (List.prefix_append _ _)

/-- A name of ASCII characters only stays one without what is behind it. No label of
    it has a mark that it did not have before, as only the last one is shorter. -/
theorem isAscii_of_append {s t : List Char} (hpoint : '.' ∉ t)
    (h : ((s ++ t).all Punycode.isAscii && !(labels (s ++ t)).any isMarked) = true) :
    (s.all Punycode.isAscii && !(labels s).any isMarked) = true := by
  rcases Text.exists_splitOnP_append (p := (· == '.')) (t := t)
    (fun c hc => beq_eq_false_iff_ne.mpr fun heq => hpoint (heq ▸ hc)) s with
    ⟨front, last, hs, hst⟩
  have hlabels : labels s = front ++ [last] := (Text.splitAt_eq '.' s).trans hs
  have hlabels' : labels (s ++ t) = front ++ [last ++ t] := (Text.splitAt_eq '.' _).trans hst
  -- All labels but the last are the same.
  rw [hlabels', List.all_append, List.any_append] at h
  rw [hlabels, List.any_append]
  simp only [Bool.and_eq_true, Bool.not_eq_true', Bool.or_eq_false_iff, List.any_cons, List.any_nil,
    Bool.or_false] at h ⊢
  exact ⟨h.1.1, h.2.1, Bool.eq_false_iff.mpr fun hmarked =>
    Bool.eq_false_iff.mp h.2.2 (isMarked_append t hmarked)⟩

/-- What is put behind a name, if it has commas, puts commas behind what the name
    is looked up as. -/
theorem count_lt_of_toAscii? {s t name name' : List Char} (ht : ',' ∈ t) (hpoint : '.' ∉ t)
    (h : toAscii? s = some name) (h' : toAscii? (s ++ t) = some name') :
    name.count ',' < name'.count ',' := by
  have hcount : 0 < t.count ',' := List.count_pos_iff.mpr ht
  unfold toAscii? at h h'
  split at h'
  · -- Then the name is ASCII without what is behind it, too.
    rename_i hascii
    rw [if_pos (isAscii_of_append hpoint hascii)] at h
    split at h
    · cases h
    split at h'
    · cases h'
    rw [← Option.some.inj h, ← Option.some.inj h', count_map_toLower, count_map_toLower,
      List.count_append]
    omega
  · rcases count_of_international h' with ⟨mapped, hmapped, hname'⟩
    rcases mapText?_append hmapped with ⟨front, back, hfront, hback, rfl⟩
    have hbehind : t.count ',' ≤ (Text.takeApart back).count ',' :=
      (count_le_of_mapText? hback).trans (Text.count_le_count_takeApart back)
    have happart : (Text.takeApart (front ++ back)).count ',' =
        (Text.takeApart front).count ',' + (Text.takeApart back).count ',' := by
      rw [Text.takeApart, List.flatMap_append, List.count_append]
      rfl
    -- Either way the name has no more commas than its mapped form has apart.
    have hname : name.count ',' ≤ (Text.takeApart front).count ',' := by
      split at h
      · split at h
        · cases h
        · rw [← Option.some.inj h, count_map_toLower]
          exact (count_le_of_mapText? hfront).trans (Text.count_le_count_takeApart front)
      · rcases count_of_international h with ⟨front', hfront', heq⟩
        obtain rfl := Option.some.inj (hfront'.symm.trans hfront)
        exact heq.le
    omega

end Domain

end EventFlow
