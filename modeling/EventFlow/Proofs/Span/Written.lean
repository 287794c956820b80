import EventFlow.Config
import EventFlow.Proofs.Binary64.Whole
import Mathlib.Data.List.Basic
import Mathlib.Data.List.Induction
import Mathlib.Data.List.TakeWhile
import Mathlib.Data.Nat.Digits.Defs

/-!
# Written Spans

Which texts denote a span, and which span that is.

A reader that cuts a text at every change between number characters and others
cannot cut a written span in any other place than between its numbers and its
units, since no unit has a number character in it (`splitPairs?_append`). So the
pieces of what it accepts are numbers and units in turn, and the texts in which
they are form the grammar below (`total?_isSome_iff`).

The total is formed in floating point. With whole numbers only, it stays a whole
number, and up to `2 ^ 53` nothing of it is rounded: no product and no partial
sum exceeds the total.

## Main definitions

* `TimeUnit`: A unit.
* `IsNumber`: Digits with at most one point.
* `Pair`: A number with its unit.
* `Written`: The text of a span.

## Theorems

* `readNumber?_isSome_iff`: Which number characters form a number.
* `splitPairs?_append`: A text is cut where its pairs meet.
* `total?_isSome_iff`: What is read as a sum of pairs.
* `foldlM_addPair_whole`: The total of pairs with whole numbers.
* `parseDuration_written`: What is refused, and the value of whole numbers.
-/

namespace EventFlow

namespace Span

/-! ## The grammar -/

/-- A unit of a written span. -/
inductive TimeUnit where
  | nanosecond
  | microsecond
  /-- The microsecond, written with the micro sign. -/
  | microSign
  | millisecond
  | second
  | minute
  | hour

namespace TimeUnit

/-- How a unit is written. -/
def text : TimeUnit → List Char
  | nanosecond => ['n', 's']
  | microsecond => ['u', 's']
  | microSign => ['µ', 's']
  | millisecond => ['m', 's']
  | second => ['s']
  | minute => ['m']
  | hour => ['h']

/-- The length of a unit in nanoseconds. -/
def nanos : TimeUnit → Nat
  | nanosecond => 1
  | microsecond => 1_000
  | microSign => 1_000
  | millisecond => 1_000_000
  | second => 1_000_000_000
  | minute => 60 * 1_000_000_000
  | hour => 60 * 60 * 1_000_000_000

end TimeUnit

/-- A written number: digits, one of them at least, and at most one point. -/
structure IsNumber (s : List Char) : Prop where
  chars : ∀ c ∈ s, c.isDigit = true ∨ c = '.'
  point : s.count '.' ≤ 1
  digit : ∃ c ∈ s, c.isDigit = true

instance : DecidablePred IsNumber := fun s =>
  decidable_of_iff (s.all (fun c => c.isDigit || c == '.') = true ∧ s.count '.' ≤ 1 ∧
      s.any Char.isDigit = true) <| by
    rw [List.all_eq_true, List.any_eq_true]
    simp only [Bool.or_eq_true, beq_iff_eq]
    exact ⟨fun ⟨chars, point, digit⟩ => ⟨chars, point, digit⟩, fun h => ⟨h.chars, h.point, h.digit⟩⟩

/-- A number with its unit. -/
structure Pair where
  /-- The number, as it is written. -/
  number : List Char
  unit : TimeUnit
  isNumber : IsNumber number

namespace Pair

def text (p : Pair) : List Char := p.number ++ p.unit.text

/-- A pair with a whole number. -/
def IsWhole (p : Pair) : Prop := ∀ c ∈ p.number, c.isDigit = true

instance : DecidablePred IsWhole := fun p =>
  decidable_of_iff (p.number.all Char.isDigit = true) List.all_eq_true

/-- The nanoseconds of a pair with a whole number. -/
def nanos (p : Pair) : Nat :=
  Nat.ofDigits 10 (p.number.reverse.map fun c => c.toNat - '0'.toNat) * p.unit.nanos

end Pair

/-- The text of pairs, nothing in between. -/
def pairsText (pairs : List Pair) : List Char := pairs.flatMap Pair.text

/-- The nanoseconds of pairs with whole numbers. -/
def pairsNanos (pairs : List Pair) : Nat := (pairs.map Pair.nanos).sum

/-- The text of a span: pairs, one at least, or a bare zero. Nothing is said of the
    order of the units, or of how often each occurs. -/
def Written (s : List Char) : Prop := s = ['0'] ∨ ∃ pairs ≠ [], s = pairsText pairs

/-! ## Numbers and units -/

variable {s number unit rest : List Char}

/-- The characters of numbers are the digits and the point. -/
theorem isNumberChar_iff {c : Char} : isNumberChar c = true ↔ c.isDigit = true ∨ c = '.' := by
  simp [isNumberChar]

/-- And the point is no digit. -/
theorem not_isDigit_point : ¬ '.'.isDigit = true := by decide

/-- Number characters are digits up to a point, if there is one. -/
theorem digits_or_point (h : ∀ c ∈ s, isNumberChar c = true) :
    (∀ c ∈ s, c.isDigit = true) ∨
      ∃ whole fraction, s = whole ++ '.' :: fraction ∧ ∀ c ∈ whole, c.isDigit = true := by
  have hsplit := List.takeWhile_append_dropWhile (p := Char.isDigit) (l := s)
  have hwhole : ∀ c ∈ s.takeWhile Char.isDigit, c.isDigit = true :=
    fun c hc => List.mem_takeWhile_imp hc
  cases hdrop : s.dropWhile Char.isDigit with
  | nil =>
      rw [hdrop, List.append_nil] at hsplit
      exact .inl (hsplit ▸ hwhole)
  | cons c fraction =>
      rw [hdrop] at hsplit
      have hstop : ¬ c.isDigit = true := by
        have := List.head?_dropWhile_not Char.isDigit s
        rw [hdrop] at this
        simpa using this
      have hc : c ∈ s := hsplit ▸ List.mem_append_right _ (.head _)
      -- The first character that is no digit is a point, as there is nothing else.
      obtain rfl := (isNumberChar_iff.mp (h c hc)).resolve_left hstop
      exact .inr ⟨_, fraction, hsplit.symm, hwhole⟩

/-- Digits alone are a whole number. -/
theorem readNumber?_of_digits (h : ∀ c ∈ s, c.isDigit = true) (hne : s ≠ []) :
    readNumber? s = some (Binary64.ofNat (digitsValue s)) := by
  unfold readNumber?
  rw [List.takeWhile_eq_self_iff.mpr h, List.dropWhile_eq_nil_iff.mpr h]
  simp [hne, Binary64.ofDecimal, Binary64.ofNat]

/-- With a point, all the rest has to be digits, and there has to be one on either
    side. -/
theorem readNumber?_of_point {whole fraction : List Char} (h : ∀ c ∈ whole, c.isDigit = true) :
    (readNumber? (whole ++ '.' :: fraction)).isSome ↔
      (∀ c ∈ fraction, c.isDigit = true) ∧ whole ++ fraction ≠ [] := by
  unfold readNumber?
  rw [List.takeWhile_append_of_pos h, List.dropWhile_append_of_pos h,
    List.takeWhile_cons_of_neg not_isDigit_point, List.dropWhile_cons_of_neg not_isDigit_point]
  simp

/-- There is no point among digits. -/
theorem count_point_of_digits (h : ∀ c ∈ s, c.isDigit = true) : s.count '.' = 0 :=
  List.count_eq_zero.mpr fun hc => not_isDigit_point (h _ hc)

/-- Number characters form a number if there is a digit among them and no second
    point. The digit may be on either side of the point. -/
theorem readNumber?_isSome_iff (h : ∀ c ∈ s, isNumberChar c = true) :
    (readNumber? s).isSome ↔ IsNumber s := by
  have hchars : ∀ c ∈ s, c.isDigit = true ∨ c = '.' := fun c hc => isNumberChar_iff.mp (h c hc)
  rcases digits_or_point h with hdigits | ⟨whole, fraction, rfl, hwhole⟩
  · by_cases hne : s = []
    · -- No character at all is no number for either.
      subst hne
      exact ⟨fun hsome => absurd hsome (by decide), fun hnumber => by simpa using hnumber.digit⟩
    · rw [readNumber?_of_digits hdigits hne]
      rcases List.exists_mem_of_ne_nil s hne with ⟨c, hc⟩
      exact iff_of_true rfl ⟨hchars, by rw [count_point_of_digits hdigits]; omega,
        c, hc, hdigits c hc⟩
  · rw [readNumber?_of_point hwhole]
    -- The point that was found is the first, so any other is behind it.
    have hcount : (whole ++ '.' :: fraction).count '.' = fraction.count '.' + 1 := by
      rw [List.count_append, count_point_of_digits hwhole, List.count_cons_self, Nat.zero_add]
    constructor
    · rintro ⟨hfraction, hne⟩
      rcases List.exists_mem_of_ne_nil _ hne with ⟨c, hc⟩
      refine ⟨hchars, by rw [hcount, count_point_of_digits hfraction], c, ?_, ?_⟩
      · rw [List.mem_append] at hc ⊢
        exact hc.imp_right (List.mem_cons_of_mem _)
      · exact (List.mem_append.mp hc).elim (hwhole c) (hfraction c)
    · intro hnumber
      have hnone : fraction.count '.' = 0 := by
        have := hnumber.point
        omega
      refine ⟨fun c hc => ?_, ?_⟩
      · refine (hchars c (List.mem_append_right _ (.tail _ hc))).resolve_right ?_
        rintro rfl
        exact List.count_eq_zero.mp hnone hc
      · -- The digit that there is cannot be the point.
        rcases hnumber.digit with ⟨c, hc, hdigit⟩
        refine List.ne_nil_of_mem (a := c) (List.mem_append.mpr ?_)
        refine (List.mem_append.mp hc).imp_right fun hc => ?_
        exact (List.mem_cons.mp hc).resolve_left fun heq => not_isDigit_point (heq ▸ hdigit)

/-- The reader knows the units, and no other. -/
theorem unitNanos?_eq_some_iff {nanos : Nat} :
    unitNanos? unit = some nanos ↔ ∃ u : TimeUnit, unit = u.text ∧ nanos = u.nanos := by
  constructor
  · intro h
    unfold unitNanos? at h
    split at h <;> simp only [Option.some.injEq, reduceCtorEq] at h
    · exact ⟨.nanosecond, rfl, h.symm⟩
    · exact ⟨.microsecond, rfl, h.symm⟩
    · exact ⟨.microSign, rfl, h.symm⟩
    · exact ⟨.millisecond, rfl, h.symm⟩
    · exact ⟨.second, rfl, h.symm⟩
    · exact ⟨.minute, rfl, h.symm⟩
    · exact ⟨.hour, rfl, h.symm⟩
  · rintro ⟨u, rfl, rfl⟩
    cases u <;> rfl

/-- A unit is written in one letter at least. -/
theorem TimeUnit.text_ne_nil (u : TimeUnit) : u.text ≠ [] := by
  cases u <;> exact List.cons_ne_nil _ _

/-- No unit has a number character in it. -/
theorem TimeUnit.not_isNumberChar (u : TimeUnit) : ∀ c ∈ u.text, isNumberChar c = false := by
  have hall : (u.text.all fun c => !isNumberChar c) = true := by cases u <;> decide
  simpa using hall

/-! ## Cutting a text into pairs -/

/-- The first cuts of a text that begins with a number character: where these end,
    and where they begin again. -/
theorem splitPairs?_cons {c d : Char} {more : List Char} (hc : isNumberChar c = true)
    (h : rest.dropWhile isNumberChar = d :: more) :
    splitPairs? (c :: rest) = (splitPairs? (more.dropWhile (!isNumberChar ·))).map
      ((c :: rest.takeWhile isNumberChar, d :: more.takeWhile (!isNumberChar ·)) :: ·) := by
  rw [splitPairs?, if_pos hc]
  split
  · rename_i hnil
    exact absurd (h.symm.trans hnil) (List.cons_ne_nil _ _)
  · rename_i hcons
    obtain ⟨rfl, rfl⟩ := List.cons.inj (h.symm.trans hcons)
    rfl

/-- A text is cut where its pairs meet. There is no other place for it: a number has
    no other characters, a unit none of these, and what follows begins with a number
    again. -/
theorem splitPairs?_append (hnumber : ∀ c ∈ number, isNumberChar c = true) (hnumberne : number ≠ [])
    (hunit : ∀ c ∈ unit, isNumberChar c = false) (hunitne : unit ≠ [])
    (hrest : ∀ c ∈ rest.head?, isNumberChar c = true) :
    splitPairs? (number ++ (unit ++ rest)) = (splitPairs? rest).map ((number, unit) :: ·) := by
  rcases List.exists_cons_of_ne_nil hnumberne with ⟨c, number, rfl⟩
  rcases List.exists_cons_of_ne_nil hunitne with ⟨d, unit, rfl⟩
  rcases List.forall_mem_cons.mp hnumber with ⟨hc, hnumber⟩
  rcases List.forall_mem_cons.mp hunit with ⟨hd, hunit⟩
  have hunit' : ∀ c ∈ unit, (!isNumberChar c) = true := fun c hc => by rw [hunit c hc]; rfl
  have hd' : ¬ isNumberChar d = true := by rw [hd]; exact Bool.false_ne_true
  -- What follows begins with a number, so the unit ends there.
  have hstop : rest.takeWhile (!isNumberChar ·) = [] ∧ rest.dropWhile (!isNumberChar ·) = rest := by
    cases rest with
    | nil => exact ⟨rfl, rfl⟩
    | cons e rest =>
        have he : ¬ (!isNumberChar e) = true := by rw [hrest e rfl]; exact Bool.false_ne_true
        exact ⟨List.takeWhile_cons_of_neg he, List.dropWhile_cons_of_neg he⟩
  have hcut : (number ++ (d :: unit ++ rest)).dropWhile isNumberChar = d :: (unit ++ rest) := by
    rw [List.dropWhile_append_of_pos hnumber, List.cons_append, List.dropWhile_cons_of_neg hd']
  rw [List.cons_append, splitPairs?_cons hc hcut, List.takeWhile_append_of_pos hnumber,
    List.cons_append, List.takeWhile_cons_of_neg hd', List.append_nil,
    List.takeWhile_append_of_pos hunit', List.dropWhile_append_of_pos hunit', hstop.1, hstop.2,
    List.append_nil]

/-- Nothing of a text is lost when it is cut, and its numbers are made of number
    characters. So whoever knows the pieces knows the text. -/
theorem of_splitPairs? {pieces : List (List Char × List Char)} (h : splitPairs? s = some pieces) :
    s = pieces.flatMap (fun p => p.1 ++ p.2) ∧
      ∀ p ∈ pieces, ∀ c ∈ p.1, isNumberChar c = true := by
  fun_induction splitPairs? s generalizing pieces with
  | case1 =>
      obtain rfl := Option.some.inj h
      exact ⟨rfl, nofun⟩
  | case2 => exact absurd h nofun
  | case3 c rest hc number d more hdrop unit =>
      rename_i ih
      rcases Option.map_eq_some_iff.mp h with ⟨others, hothers, rfl⟩
      rcases ih hothers with ⟨hmore, hall⟩
      refine ⟨?_, List.forall_mem_cons.mpr ⟨List.forall_mem_cons.mpr ⟨hc, fun c hc => ?_⟩, hall⟩⟩
      · -- The unit and what follows it are what the number left.
        have hunit : unit ++ more.dropWhile (!isNumberChar ·) = rest.dropWhile isNumberChar := by
          rw [hdrop, List.cons_append, List.takeWhile_append_dropWhile]
        rw [List.flatMap_cons, ← hmore, List.append_assoc, hunit, List.cons_append,
          List.takeWhile_append_dropWhile]
      · exact List.mem_takeWhile_imp hc
  | case4 => exact absurd h nofun

/-- The pieces of a pair. -/
def Pair.pieces (p : Pair) : List Char × List Char := (p.number, p.unit.text)

/-- A number has a digit in it. -/
theorem Pair.number_ne_nil (p : Pair) : p.number ≠ [] := by
  rcases p.isNumber.digit with ⟨c, hc, -⟩
  exact List.ne_nil_of_mem hc

/-- And no characters but those of numbers. -/
theorem Pair.isNumberChar_of_mem (p : Pair) : ∀ c ∈ p.number, isNumberChar c = true :=
  fun c hc => isNumberChar_iff.mpr (p.isNumber.chars c hc)

/-- The text of pairs begins with the number of the first. -/
theorem pairsText_cons (p : Pair) (pairs : List Pair) :
    pairsText (p :: pairs) = p.number ++ (p.unit.text ++ pairsText pairs) := by
  rw [pairsText, List.flatMap_cons, Pair.text, List.append_assoc, pairsText]

/-- What follows a pair is another one or the end, so no unit goes on into it. -/
theorem isNumberChar_head_pairsText (pairs : List Pair) :
    ∀ c ∈ (pairsText pairs).head?, isNumberChar c = true := by
  cases pairs with
  | nil => exact nofun
  | cons p pairs =>
      intro c hc
      rw [pairsText_cons, List.head?_append_of_ne_nil _ p.number_ne_nil] at hc
      exact p.isNumberChar_of_mem c (List.mem_of_mem_head? hc)

/-- The text of pairs is cut into their pieces. -/
theorem splitPairs?_pairsText (pairs : List Pair) :
    splitPairs? (pairsText pairs) = some (pairs.map Pair.pieces) := by
  induction pairs with
  | nil => rw [pairsText, List.flatMap_nil, splitPairs?, List.map_nil]
  | cons p pairs ih =>
      rw [pairsText_cons, splitPairs?_append p.isNumberChar_of_mem p.number_ne_nil
        p.unit.not_isNumberChar p.unit.text_ne_nil (isNumberChar_head_pairsText pairs), ih]
      rfl

/-! ## Adding up -/

/-- What is added to a total is a number with a unit. Adding itself never fails: a
    sum that is too large is infinite, and refused in the end. -/
theorem addPair_isSome_iff {total : Binary64} {piece : List Char × List Char}
    (h : ∀ c ∈ piece.1, isNumberChar c = true) :
    (addPair total piece).isSome ↔ ∃ p : Pair, piece = p.pieces := by
  -- Both pieces are read by themselves, and adding never fails.
  have hread : (addPair total piece).isSome ↔
      (readNumber? piece.1).isSome ∧ (unitNanos? piece.2).isSome := by
    unfold addPair
    cases readNumber? piece.1 <;> cases unitNanos? piece.2 <;> simp
  rw [hread, readNumber?_isSome_iff h]
  constructor
  · rintro ⟨hnumber, hunit⟩
    rcases Option.isSome_iff_exists.mp hunit with ⟨nanos, hnanos⟩
    rcases unitNanos?_eq_some_iff.mp hnanos with ⟨u, hu, -⟩
    exact ⟨⟨piece.1, u, hnumber⟩, Prod.ext rfl hu⟩
  · rintro ⟨p, rfl⟩
    exact ⟨p.isNumber, Option.isSome_iff_exists.mpr
      ⟨_, unitNanos?_eq_some_iff.mpr ⟨p.unit, rfl, rfl⟩⟩⟩

/-- Pieces can be added up if they are pairs. -/
theorem foldlM_addPair_isSome_iff {pieces : List (List Char × List Char)} {total : Binary64}
    (h : ∀ p ∈ pieces, ∀ c ∈ p.1, isNumberChar c = true) :
    (pieces.foldlM addPair total).isSome ↔ ∃ pairs : List Pair, pieces = pairs.map Pair.pieces := by
  induction pieces generalizing total with
  | nil => exact iff_of_true rfl ⟨[], rfl⟩
  | cons piece pieces ih =>
      rcases List.forall_mem_cons.mp h with ⟨hpiece, hpieces⟩
      rw [List.foldlM_cons]
      constructor
      · intro hsome
        -- If one piece cannot be added, none of those behind it helps.
        cases hadd : addPair total piece with
        | none =>
            rw [hadd] at hsome
            exact absurd hsome Bool.false_ne_true
        | some sum =>
            rw [hadd] at hsome
            rcases (addPair_isSome_iff hpiece).mp (Option.isSome_of_eq_some hadd) with ⟨p, hp⟩
            rcases (ih hpieces).mp hsome with ⟨pairs, hpairs⟩
            exact ⟨p :: pairs, by rw [hp, hpairs, List.map_cons]⟩
      · rintro ⟨pairs, hpairs⟩
        cases pairs with
        | nil => exact absurd hpairs (List.cons_ne_nil _ _)
        | cons p pairs =>
            obtain ⟨hp, hothers⟩ := List.cons.inj hpairs
            rcases Option.isSome_iff_exists.mp
              ((addPair_isSome_iff hpiece).mpr ⟨p, hp⟩) with ⟨sum, hsum⟩
            rw [hsum]
            exact (ih hpieces).mpr ⟨pairs, hothers⟩

/-- The floating point total of the pairs of a text. -/
def total? (s : List Char) : Option Binary64 :=
  (splitPairs? s).bind (·.foldlM addPair Binary64.zero)

/-- What is read as a sum of pairs is the text of pairs, and nothing else. The total
    itself does not matter for that, however it was rounded. -/
theorem total?_isSome_iff : (total? s).isSome ↔ ∃ pairs, s = pairsText pairs := by
  constructor
  · intro hsome
    unfold total? at hsome
    cases hsplit : splitPairs? s with
    | none =>
        rw [hsplit] at hsome
        exact absurd hsome Bool.false_ne_true
    | some pieces =>
        rw [hsplit] at hsome
        -- Nothing was lost in cutting, so the pieces are the text.
        rcases of_splitPairs? hsplit with ⟨hs, hchars⟩
        rcases (foldlM_addPair_isSome_iff hchars).mp hsome with ⟨pairs, rfl⟩
        exact ⟨pairs, hs.trans (List.flatMap_map _ _ pairs)⟩
  · rintro ⟨pairs, rfl⟩
    rw [total?, splitPairs?_pairsText]
    refine (foldlM_addPair_isSome_iff fun p hp => ?_).mpr ⟨pairs, rfl⟩
    rcases List.mem_map.mp hp with ⟨p, -, rfl⟩
    exact p.isNumberChar_of_mem

/-! ## Whole numbers -/

/-- The value of digits is that of the library, which begins with the last of them. -/
theorem digitsValue_eq (s : List Char) :
    digitsValue s = Nat.ofDigits 10 (s.reverse.map fun c => c.toNat - '0'.toNat) := by
  induction s using List.reverseRecOn with
  | nil => rfl
  | append_singleton s c ih =>
      rw [List.reverse_concat, List.map_cons, Nat.ofDigits_cons, ← ih, Nat.add_comm]
      exact List.foldl_append

/-- All units are whole numbers that the format holds, and none of them is zero, so
    that a number is at most its nanoseconds. -/
theorem TimeUnit.nanos_bounds (u : TimeUnit) : 0 < u.nanos ∧ u.nanos ≤ Nat.pow 2 53 := by
  cases u <;> decide

/-- A pair with a whole number adds its nanoseconds. The number, the product and the
    sum are all below the bound, so none of the three is rounded. -/
theorem addPair_whole {p : Pair} (h : p.IsWhole) {n : Nat} (hle : n + p.nanos ≤ Nat.pow 2 53) :
    addPair (Binary64.whole n) p.pieces = some (Binary64.whole (n + p.nanos)) := by
  have hunit : unitNanos? p.unit.text = some p.unit.nanos :=
    unitNanos?_eq_some_iff.mpr ⟨p.unit, rfl, rfl⟩
  have hnanos : p.nanos = digitsValue p.number * p.unit.nanos := by rw [Pair.nanos, digitsValue_eq]
  -- The number is no more than its nanoseconds, so it is exact as well.
  have hnumber : digitsValue p.number ≤ p.nanos := by
    rw [hnanos]
    exact Nat.le_mul_of_pos_right _ p.unit.nanos_bounds.1
  simp only [addPair, Pair.pieces, readNumber?_of_digits h p.number_ne_nil, hunit]
  rw [Binary64.ofNat_of_le (by omega), Binary64.ofNat_of_le p.unit.nanos_bounds.2,
    Binary64.mul_whole (by rw [← hnanos]; omega), ← hnanos, Binary64.add_whole hle]

/-- Nothing of the total of pairs with whole numbers is lost. Every partial sum is
    at most the total, which the premise bounds. -/
theorem foldlM_addPair_whole {pairs : List Pair} (h : ∀ p ∈ pairs, p.IsWhole) {n : Nat}
    (hle : n + pairsNanos pairs ≤ Nat.pow 2 53) :
    (pairs.map Pair.pieces).foldlM addPair (Binary64.whole n) =
      some (Binary64.whole (n + pairsNanos pairs)) := by
  induction pairs generalizing n with
  | nil => rfl
  | cons p pairs ih =>
      rcases List.forall_mem_cons.mp h with ⟨hp, hpairs⟩
      have hsum : pairsNanos (p :: pairs) = p.nanos + pairsNanos pairs := rfl
      rw [hsum, ← Nat.add_assoc] at hle ⊢
      rw [List.map_cons, List.foldlM_cons, addPair_whole hp (by omega)]
      exact ih hpairs hle

/-- A whole total is read as so many nanoseconds. It is far from the number at which
    totals are cut. -/
theorem ofTotal?_whole {n : Nat} (h : n ≤ Nat.pow 2 53) :
    ofTotal? (Binary64.whole n) = some (ofNanos n) := by
  have hsize : Nat.pow 2 53 ≤ UInt64.size - 1 := by decide
  unfold Binary64.whole ofTotal?
  simp only [roundTiesUp_mul n Binary64.unitsPerOne_pos]
  rw [if_pos (by omega)]
  exact congrArg (some <| ofNanos ·) (Nat.min_eq_left (Nat.le_trans h hsize))

/-! ## Reading a text -/

variable {text : String}

/-- A text that is neither empty nor a bare zero is read as a sum of pairs. -/
theorem ofText?_of_ne (hnil : (Text.trim text).toList ≠ [])
    (hzero : (Text.trim text).toList ≠ ['0']) :
    ofText? text = (total? (Text.trim text).toList).bind ofTotal? := by
  rw [Text.trim, String.toList_ofList] at *
  unfold ofText? total?
  split
  · rename_i h
    exact absurd h hnil
  · rename_i h
    exact absurd h hzero
  · rw [Option.bind_assoc]
    rfl

/-- A text of pairs, one at least, is no bare zero. -/
theorem pairsText_ne {pairs : List Pair} (h : pairs ≠ []) :
    pairsText pairs ≠ [] ∧ pairsText pairs ≠ ['0'] := by
  rcases List.exists_cons_of_ne_nil h with ⟨p, pairs, rfl⟩
  rw [pairsText_cons]
  refine ⟨List.append_ne_nil_of_left_ne_nil p.number_ne_nil _, fun hzero => ?_⟩
  -- The number takes one character at least, and the unit another one.
  have hnumber := List.length_pos_iff.mpr p.number_ne_nil
  have hunit := List.length_pos_iff.mpr p.unit.text_ne_nil
  have hlength := congrArg List.length hzero
  rw [List.length_append, List.length_append, List.length_singleton] at hlength
  omega

/-- The reader tells whether a text is written like a span. It is what makes the
    grammar decidable. -/
theorem written_iff : Written s ↔ s = ['0'] ∨ s ≠ [] ∧ (total? s).isSome := by
  rw [total?_isSome_iff, Written]
  refine or_congr_right ⟨?_, ?_⟩
  · rintro ⟨pairs, hne, rfl⟩
    exact ⟨(pairsText_ne hne).1, pairs, rfl⟩
  · rintro ⟨hne, pairs, rfl⟩
    exact ⟨pairs, fun hnil => hne (hnil ▸ rfl), rfl⟩

instance : DecidablePred Written := fun _ => decidable_of_iff _ written_iff.symm

/-- What is read is written like a span. So all other texts are refused, and it is
    left open whether a written one is too long. -/
theorem written_of_ofText? {span : Span} (h : ofText? text = some span) :
    Written (Text.trim text).toList := by
  rw [written_iff]
  by_cases hzero : (Text.trim text).toList = ['0']
  · exact .inl hzero
  -- Nothing at all is not read.
  have hnil : (Text.trim text).toList ≠ [] := by
    intro hnil
    rw [Text.trim, String.toList_ofList] at hnil
    rw [ofText?, hnil] at h
    exact Option.some_ne_none _ h.symm
  rw [ofText?_of_ne hnil hzero] at h
  rcases Option.bind_eq_some_iff.mp h with ⟨sum, hsum, -⟩
  exact .inr ⟨hnil, Option.isSome_of_eq_some hsum⟩

/-- Pairs with whole numbers are read as their exact total. -/
theorem ofText?_of_whole {pairs : List Pair} (hne : pairs ≠ [])
    (htext : (Text.trim text).toList = pairsText pairs) (hwhole : ∀ p ∈ pairs, p.IsWhole)
    (hle : pairsNanos pairs ≤ Nat.pow 2 53) : ofText? text = some (ofNanos (pairsNanos pairs)) := by
  rcases pairsText_ne hne with ⟨hnil, hzero⟩
  have hsum := foldlM_addPair_whole hwhole (n := 0) (by rwa [Nat.zero_add])
  rw [Binary64.whole_zero, Nat.zero_add] at hsum
  rw [ofText?_of_ne (htext ▸ hnil) (htext ▸ hzero), htext, total?, splitPairs?_pairsText,
    Option.bind_some, hsum, Option.bind_some, ofTotal?_whole hle]

/-- A text that is not written like a span is refused as it stands, and pairs with
    whole numbers denote their exact total as long as it is at most `2 ^ 53`
    nanoseconds. -/
theorem parseDuration_written (text : String) :
    (¬ Written (Text.trim text).toList →
      parseDuration text = .error (.invalidDuration text)) ∧
    ∀ pairs ≠ [], (Text.trim text).toList = pairsText pairs → (∀ p ∈ pairs, p.IsWhole) →
      pairsNanos pairs ≤ Nat.pow 2 53 →
      ∃ span, parseDuration text = .ok span ∧ span.nanos = pairsNanos pairs := by
  unfold parseDuration
  constructor
  · intro hnot
    cases hread : ofText? text with
    | none => rfl
    | some span => exact absurd (written_of_ofText? hread) hnot
  · intro pairs hne htext hwhole hle
    have hlt : pairsNanos pairs < 0x1_0000_0000_0000_0000 * 1_000_000_000 :=
      Nat.lt_of_le_of_lt hle (by decide)
    rw [ofText?_of_whole hne htext hwhole hle]
    exact ⟨_, rfl, by rw [ofNanos_of_lt hlt]⟩

/-- Units may come in any order and again, and zeros may lead; blanks may only stand
    around. -/
theorem parseDuration_written_repeated :
    (¬ Written (Text.trim "1 s").toList ∧ parseDuration "1 s" = .error (.invalidDuration "1 s")) ∧
    ∃ span, parseDuration " 7s1m001s" = .ok span ∧ span.nanos = 68_000_000_000 := by
  have hblank : ¬ Written (Text.trim "1 s").toList := by decide +kernel
  rcases (parseDuration_written " 7s1m001s").2
    [⟨['7'], .second, by decide⟩, ⟨['1'], .minute, by decide⟩,
      ⟨['0', '0', '1'], .second, by decide⟩]
    (List.cons_ne_nil _ _) (by decide) (by decide) (by decide +kernel) with ⟨span, hspan, hnanos⟩
  exact ⟨⟨hblank, (parseDuration_written "1 s").1 hblank⟩, span, hspan,
    hnanos.trans (by decide +kernel)⟩

end Span

end EventFlow
