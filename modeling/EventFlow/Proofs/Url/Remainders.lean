import EventFlow.Proofs.Text.Division
import EventFlow.Proofs.Url.Segments

/-!
# Remainders

What can stand behind an entry of a list without being one, and what it does to
the path, the query and the fragment of a URL.

An entry is separated from the next by a comma, and white space around it is not
part of it; controls and spaces around a URL are not part of the URL. All other
characters count. If an endpoint has a comma in it and the list still makes one
entry of it, then what follows this entry is a remainder: a comma with characters
around it that come to nothing. A remainder has none of the characters that a URL
is divided at, so it becomes part of the last thing in a URL, whatever that is, and
since nothing escapes a comma, it is seen there.

Behind a path it shows in the last segment. This is so even if that segment was a
dot segment or a drive, for it is none any more (`step_of_comma`).

## Main definitions

* `Url.IsLoose`: A character that comes to nothing at an end.
* `Url.Remainder`: What is left behind an entry.
* `Url.EndsApart`: A path that ends with another segment.

## Theorems

* `readSegments_append`: A path with a remainder ends with another segment.
* `readMarks_append`: A query or a fragment with one is another.
* `resource_append`: A remainder is seen in one of them.
-/

namespace EventFlow

namespace UrlPath

variable {kind : SchemeKind}

/-- Settling takes segments from the front, so the last one stays. If all of them
    are empty one is left, and that is the last as well. -/
theorem getLast?_settle {list : List (List Char)} (h : list ≠ []) :
    (settle kind list).getLast? = list.getLast? := by
  unfold settle
  split
  · split
    · rename_i hnil
      rw [List.getLast?_eq_some_getLast h]
      -- All are empty, and so is the one that is left.
      have hempty := List.dropWhile_eq_nil_iff.mp hnil _ (List.getLast_mem h)
      rw [List.isEmpty_iff.mp hempty]
      rfl
    · rename_i kept hkept
      conv_rhs => rw [← List.takeWhile_append_dropWhile (p := List.isEmpty) (l := list)]
      rw [List.getLast?_append_of_ne_nil _ hkept]
  · rfl

/-- A drive is a letter and a colon or a bar, so a segment with a comma is none. -/
theorem isDrive_of_comma {v : List Char} (h : ',' ∈ v) : isDrive v = false := by
  unfold isDrive
  split
  · rename_i c d
    rcases List.mem_cons.mp h with rfl | hd
    · rfl
    · rw [← List.mem_singleton.mp hd, Bool.and_eq_false_iff]
      exact .inr rfl
  · rfl

/-- Neither is it a segment of dots. -/
theorem not_dots_of_comma {v : List Char} (h : ',' ∈ v) :
    isDot v = false ∧ isDotDot v = false := by
  have hne : ∀ dots : List Char, ',' ∉ dots → (v.map Char.toLower == dots) = false := by
    intro dots hdots
    refine beq_eq_false_iff_ne.mpr fun heq => hdots ?_
    rw [← heq]
    exact List.mem_map.mpr ⟨',', h, rfl⟩
  constructor
  · simp [isDot, hne]
  · simp [isDotDot, hne]

/-- A last segment with a comma in it is no dot segment and no drive, so it is put
    behind the others, whatever these are. -/
theorem step_of_comma {v : List Char} (h : ',' ∈ v) (done : List (List Char)) (isLast : Bool) :
    step kind done v isLast = done ++ [v] := by
  rcases not_dots_of_comma h with ⟨hdot, hdots⟩
  simp only [step, hdot, hdots, isDrive_of_comma h, Bool.and_false, Bool.false_eq_true,
    if_false]

/-- A path does not end with the segment that it would end with if something had
    been put behind it. A segment of dots leaves an empty one and a drive two
    characters; any other is left as it is, and so is shorter. -/
theorem getLast?_step_ne {v w : List Char} (hw : ',' ∈ w) (done : List (List Char)) :
    (step kind done v true).getLast? ≠ some (v ++ w) := by
  have hcomma : ',' ∈ v ++ w := List.mem_append_right v hw
  -- A dot segment leaves an empty segment behind, and a drive is written anew.
  have hdot : ([] : List Char) ≠ v ++ w := (List.ne_nil_of_mem hcomma).symm
  have hsame : v ≠ v ++ w := fun heq => List.ne_nil_of_mem hw (List.self_eq_append_right.mp heq)
  have hdrive : ∀ c : Char, isDrive v = true → [c, ':'] ≠ v ++ w := by
    intro c hv heq
    have hboth : isDrive v = true → 2 ≤ v.length := by
      unfold isDrive
      split
      · exact fun _ => Nat.le_refl _
      · exact fun hfalse => absurd hfalse Bool.false_ne_true
    have hlength := congrArg List.length heq
    have hpos := List.length_pos_of_mem hw
    have hle := hboth hv
    rw [List.length_append, List.length_cons, List.length_singleton] at hlength
    omega
  unfold step
  dsimp only
  split
  · simpa using hdot
  split
  · simpa using hdot
  split
  · rename_i hfile
    simpa using hdrive (v.headD 'C') (Bool.and_eq_true_iff.mp hfile).2
  · simpa using hsame

end UrlPath

namespace Url

/-! ## Remainders -/

/-- A character that comes to nothing around an entry of a list or around a URL. The
    three classes are those of three readers: of the list, of its entries, and of
    URLs. -/
def IsLoose (c : Char) : Prop := c = ',' ∨ Text.isBlank c = true ∨ isBorder c = true

/-- Behind an entry of a list: characters that come to nothing, with a comma among
    them. -/
structure Remainder (t : List Char) : Prop where
  comma : ',' ∈ t
  loose : ∀ c ∈ t, IsLoose c

variable {s t : List Char} {kind : SchemeKind}

/-- A comma is the only one of these that is ASCII and can be seen. This is all that
    the lemmas below need of the three classes. -/
theorem IsLoose.range {c : Char} (h : IsLoose c) : c.toNat ≤ 0x20 ∨ c = ',' ∨ 0x7f ≤ c.toNat := by
  rcases h with heq | hblank | hborder
  · exact .inr (.inl heq)
  · unfold Text.isBlank at hblank
    simp only [Bool.or_eq_true, Bool.and_eq_true, decide_eq_true_eq, beq_iff_eq] at hblank
    omega
  · exact .inl (of_decide_eq_true hborder)

/-- None of these characters is a letter. -/
theorem IsLoose.isAlpha_eq {c : Char} (h : IsLoose c) : c.isAlpha = false := by
  refine Bool.eq_false_iff.mpr fun halpha => ?_
  have hbounds : ∀ low high : Char, low.val ≤ c.val → c.val ≤ high.val →
      low.toNat ≤ c.toNat ∧ c.toNat ≤ high.toNat :=
    fun _ _ hlow hhigh => ⟨UInt32.le_iff_toNat_le.mp hlow, UInt32.le_iff_toNat_le.mp hhigh⟩
  have halpha : 65 ≤ c.toNat ∧ c.toNat ≤ 90 ∨ 97 ≤ c.toNat ∧ c.toNat ≤ 122 := by
    rcases Bool.or_eq_true_iff.mp halpha with hupper | hlower
    · have hupper := of_decide_eq_true hupper
      exact .inl (hbounds 'A' 'Z' hupper.1 hupper.2)
    · have hlower := Bool.and_eq_true_iff.mp hlower
      exact .inr (hbounds 'a' 'z' (of_decide_eq_true hlower.1) (of_decide_eq_true hlower.2))
  rcases h.range with hle | rfl | hge
  · omega
  · revert halpha
    decide
  · omega

/-- And none is a digit. -/
theorem IsLoose.isDigit_eq {c : Char} (h : IsLoose c) : c.isDigit = false := by
  refine Bool.eq_false_iff.mpr fun hdigit => ?_
  have hdigit : 48 ≤ c.toNat ∧ c.toNat ≤ 57 := Char.isDigit_iff_toNat.mp hdigit
  rcases h.range with hle | rfl | hge
  · omega
  · revert hdigit
    decide
  · omega

/-- All other ASCII characters that can be seen are not in a remainder, and a URL is
    divided at no others. -/
theorem Remainder.not_mem (h : Remainder t) {d : Char} (hlow : 0x20 < d.toNat)
    (hhigh : d.toNat < 0x7f) (hcomma : d ≠ ',') : d ∉ t := by
  intro hd
  rcases (h.loose d hd).range with hle | heq | hge
  · omega
  · exact hcomma heq
  · omega

/-- There is a comma in it, at least. -/
theorem Remainder.ne_nil (h : Remainder t) : t ≠ [] := List.ne_nil_of_mem h.comma

/-- No class that a URL is divided by has a character of a remainder. So it stays
    with the part of the URL that it is put behind. -/
theorem Remainder.endsAuthority_eq (h : Remainder t) (kind : SchemeKind) :
    ∀ c ∈ t, endsAuthority kind c = false := by
  intro c hc
  have hne : ∀ d : Char, 0x20 < d.toNat → d.toNat < 0x7f → d ≠ ',' → c ≠ d :=
    fun d hlow hhigh hcomma heq => h.not_mem hlow hhigh hcomma (heq ▸ hc)
  simp [endsAuthority, isSlash, isMark, hne '/' (by decide) (by decide) (by decide),
    hne '\\' (by decide) (by decide) (by decide), hne '?' (by decide) (by decide) (by decide),
    hne '#' (by decide) (by decide) (by decide)]

/-- It has no slash in it, which would divide a path. -/
theorem Remainder.isSlash_eq (h : Remainder t) (kind : SchemeKind) :
    ∀ c ∈ t, isSlash kind c = false :=
  fun c hc => (Bool.or_eq_false_iff.mp (h.endsAuthority_eq kind c hc)).1

/-- And nothing that begins a query or a fragment. -/
theorem Remainder.isMark_eq (h : Remainder t) : ∀ c ∈ t, isMark c = false :=
  fun c hc => (Bool.or_eq_false_iff.mp (h.endsAuthority_eq .other c hc)).2

/-- The same, as a reader asks for it that takes all up to the end of an authority. -/
theorem Remainder.not_endsAuthority (h : Remainder t) (kind : SchemeKind) :
    ∀ c ∈ t, (!endsAuthority kind c) = true :=
  fun c hc => by rw [h.endsAuthority_eq kind c hc]; rfl

/-- And for one that takes all up to a query or a fragment. -/
theorem Remainder.not_isMark (h : Remainder t) : ∀ c ∈ t, (!isMark c) = true :=
  fun c hc => by rw [h.isMark_eq c hc]; rfl

/-! ## Path, query and fragment -/

/-- What is put behind a part that is escaped is seen in it. -/
theorem encode_append_ne {p : Char → Bool} (hp : p ',' = false) (h : Remainder t) (s : List Char) :
    Percent.encode p (s ++ t) ≠ Percent.encode p s := by
  intro heq
  rw [Percent.encode_append] at heq
  have hnil := List.append_right_eq_self.mp heq
  exact List.ne_nil_of_mem (Percent.mem_encode hp h.comma) hnil

/-- Dividing where a class occurs is the library's. -/
theorem splitWhere_eq (p : Char → Bool) (s : List Char) : splitWhere p s = s.splitOnP p := by
  induction s with
  | nil => rfl
  | cons c s ih =>
      rw [splitWhere, List.splitOnP_cons_eq_if_modifyHead, ih]
      split
      · rfl
      · cases hpieces : s.splitOnP p with
        | nil => exact absurd hpieces (List.splitOnP_ne_nil p s)
        | cons piece pieces => rfl

/-- The last piece of a path is read last, on a path that does not depend on it. So
    two paths that differ in their last piece only can be compared there. -/
theorem stepAll_concat (kind : SchemeKind) (done front : List (List Char)) : ∃ done', ∀ last,
    stepAll kind done (front ++ [last]) =
      UrlPath.step kind done' (Percent.encode Percent.inPath last) true := by
  induction front generalizing done with
  | nil => exact ⟨done, fun last => rfl⟩
  | cons piece front ih =>
      rcases ih (UrlPath.step kind done (Percent.encode Percent.inPath piece) false) with
        ⟨done', hdone'⟩
      -- What was done before does not depend on the last piece.
      refine ⟨done', fun last => ?_⟩
      rw [List.cons_append, stepAll, hdone']
      exact fun hnil => List.append_ne_nil_of_right_ne_nil _ (List.cons_ne_nil _ _) hnil

/-- Where two paths differ: the one ends with a segment that the other does not end
    with. The other may end with no segment at all. -/
def EndsApart (list list' : List (List Char)) : Prop :=
  ∃ last, list'.getLast? = some last ∧ list.getLast? ≠ some last

/-- Such paths are two. -/
theorem EndsApart.ne {list list' : List (List Char)} (h : EndsApart list list') : list ≠ list' := by
  rintro rfl
  rcases h with ⟨last, hlast, hnot⟩
  exact hnot hlast

/-- A path with a remainder ends with another segment, if nothing follows the path.
    A comma is not escaped in a path, so it is seen there. -/
theorem readSegments_append (h : Remainder t) (hpath : s.dropWhile (!isMark ·) = []) :
    EndsApart (readSegments kind s) (readSegments kind (s ++ t)) := by
  have hall := List.dropWhile_eq_nil_iff.mp hpath
  have happend := List.forall_mem_append.mpr ⟨hall, h.not_isMark⟩
  -- The pieces are the same but for the last one, so they are read alike up to it.
  rcases Text.exists_splitOnP_append (h.isSlash_eq kind) s with ⟨front, last, hs, hst⟩
  rcases stepAll_concat kind [] front with ⟨done, hdone⟩
  have hcomma : ',' ∈ Percent.encode Percent.inPath t := Percent.mem_encode (by decide) h.comma
  have hread : readSegments kind s = UrlPath.settle kind
      (UrlPath.step kind done (Percent.encode Percent.inPath last) true) := by
    rw [readSegments, List.takeWhile_eq_self_iff.mpr hall, splitWhere_eq, hs, hdone]
  have hread' : readSegments kind (s ++ t) = UrlPath.settle kind
      (UrlPath.step kind done (Percent.encode Percent.inPath (last ++ t)) true) := by
    rw [readSegments, List.takeWhile_eq_self_iff.mpr happend, splitWhere_eq, hst, hdone]
  refine ⟨Percent.encode Percent.inPath (last ++ t), ?_, ?_⟩
  · rw [hread', UrlPath.getLast?_settle (UrlPath.step_ne_nil _ _ _), Percent.encode_append,
      UrlPath.step_of_comma (List.mem_append_right _ hcomma), List.getLast?_concat]
  · rw [hread, UrlPath.getLast?_settle (UrlPath.step_ne_nil _ _ _), Percent.encode_append]
    exact UrlPath.getLast?_step_ne hcomma done

/-- This holds of all that a path can begin with, a slash or none. -/
theorem readPath_append (h : Remainder t) (hpath : s.dropWhile (!isMark ·) = []) :
    EndsApart (readPath kind s) (readPath kind (s ++ t)) := by
  cases s with
  | nil =>
      -- Without a path there is none or the root, and the remainder is a path of its own.
      have hapart : EndsApart (readSegments kind []) (readSegments kind t) :=
        readSegments_append h rfl
      rcases hapart with ⟨last, hlast, hnot⟩
      have hempty : readSegments kind [] = [[]] := by cases kind <;> decide
      have hread : readPath kind t = readSegments kind t := by
        cases t with
        | nil => exact absurd rfl h.ne_nil
        | cons c rest =>
            simp only [readPath, h.isSlash_eq kind c (.head _), h.isMark_eq c (.head _),
              Bool.false_and, Bool.false_eq_true, if_false]
      rw [hempty] at hnot
      refine ⟨last, by rw [List.nil_append, hread]; exact hlast, ?_⟩
      rw [readPath]
      split
      · exact hnot
      · exact (Option.some_ne_none last).symm
  | cons c rest =>
      have hc : isMark c = false := by
        simpa using List.dropWhile_eq_nil_iff.mp hpath c (.head _)
      have hrest : rest.dropWhile (!isMark ·) = [] :=
        List.dropWhile_eq_nil_iff.mpr fun d hd =>
          List.dropWhile_eq_nil_iff.mp hpath d (.tail _ hd)
      simp only [readPath, List.cons_append, hc, Bool.false_and, Bool.false_eq_true, if_false]
      split
      · -- A slash in front is not part of the segments.
        exact readSegments_append h hrest
      · exact readSegments_append h hpath

/-- What begins a query or a fragment goes on with what is put behind it. -/
theorem readMarks_append (h : Remainder t) {c : Char} (hc : isMark c = true) (s : List Char) :
    readMarks kind (c :: s) ≠ readMarks kind (c :: s ++ t) := by
  have hsign : ∀ d ∈ t, (d != '#') = true := fun d hd => bne_iff_ne.mpr fun heq =>
    h.not_mem (by decide) (by decide) (by decide) (heq ▸ hd)
  have hfragment : ∀ rest : List Char, Percent.encode Percent.inFragment rest ≠
      Percent.encode Percent.inFragment (rest ++ t) :=
    fun rest => (encode_append_ne (by decide) h rest).symm
  rcases Bool.or_eq_true_iff.mp hc with hc | hc
  · rw [beq_iff_eq.mp hc]
    rcases Text.takeWhile_dropWhile_append hsign s with
      ⟨htake, -, htake', -⟩ | ⟨hdrop, -, hdrop'⟩
    · -- The query goes on to the end.
      intro heq
      have hquery := congrArg Prod.fst heq
      simp only [readMarks, List.cons_append, htake, htake'] at hquery
      refine encode_append_ne ?_ h s (Option.some.inj hquery).symm
      split <;> rfl
    · -- The query ends at a fragment, which goes on to the end.
      intro heq
      have hrest := congrArg Prod.snd heq
      rcases Text.exists_cons_dropWhile hdrop with ⟨d, rest, hd, hstop⟩
      have hsame : d = '#' := by simpa using hstop
      simp only [readMarks, List.cons_append, hdrop', hd, hsame] at hrest
      exact hfragment rest (Option.some.inj hrest)
  · rw [beq_iff_eq.mp hc]
    intro heq
    exact hfragment s (Option.some.inj (congrArg Prod.snd heq))

/-- The path, the query and the fragment show a remainder behind them. It is seen in
    the last of the three that there is. -/
theorem resource_append (h : Remainder t) (s : List Char) :
    (readPath kind s, readMarks kind (afterPath s)) ≠
      (readPath kind (s ++ t), readMarks kind (afterPath (s ++ t))) := by
  rcases Text.takeWhile_dropWhile_append h.not_isMark s with ⟨-, hpath, -⟩ | ⟨hmarks, -, hmarks'⟩
  · exact fun heq => (readPath_append h hpath).ne (congrArg Prod.fst heq)
  · intro heq
    rcases Text.exists_cons_dropWhile hmarks with ⟨c, rest, hc, hstop⟩
    have hmark : isMark c = true := by simpa using hstop
    -- The path is the same, and what follows it is not.
    have hread := congrArg Prod.snd heq
    rw [afterPath, afterPath, hmarks', hc] at hread
    exact readMarks_append h hmark rest hread

end Url

end EventFlow
