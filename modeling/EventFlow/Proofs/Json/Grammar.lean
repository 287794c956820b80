import EventFlow.Proofs.Json.Strings
import Mathlib.Data.List.Forall2
import Mathlib.Tactic.Tauto

/-!
# The Grammar of JSON

What a text looks like that somebody else may have written.

Such a text may have white space wherever the grammar lets it, numbers with all
their parts, strings spelled in any way, and containers in containers without
end. `IsValue` is the grammar of a value. It is a predicate on bytes that knows
nothing of the reader, and arrays and objects share the one definition of a list
between commas (`Listed`).

The parts that have nothing inside are tokens, and here they meet the reader of
tokens. Only a number makes trouble: it does not say where it ends. It ends where
something begins that is no part of it, so what follows has to be one of the
things that can follow a value (`Delimited`).

## Main definitions

* `IsBlank`, `IsNumber`, `IsScalar`: The small parts of a text.
* `Listed`: Items between commas.
* `IsMember`: A name, a colon and a value.
* `IsValue`: The text of a value.
* `IsTextOf`, `IsObject`: The texts of a string, and of an object by what its
  members are.
* `Delimited`: What can follow a value comes next.

## Theorems

* `nextToken_append`: White space is nothing to a reader of tokens.
* `nextToken_number`: A number is one token.
-/

namespace EventFlow

namespace Json

/-! ## Small parts -/

/-- White space, or nothing. -/
def IsBlank (s : Bytes) : Prop := ∀ b ∈ s, b = 0x20 ∨ b = 0x0a ∨ b = 0x09 ∨ b = 0x0d

/-- At least one digit, and nothing else. -/
def IsDigits (s : Bytes) : Prop := s ≠ [] ∧ ∀ b ∈ s, isDigit b = true

/-- A single zero, or digits that do not begin with one. -/
def IsWhole (s : Bytes) : Prop := s = [0x30] ∨ IsDigits s ∧ s.head? ≠ some 0x30

/-- A point and digits, or nothing. -/
def IsFraction (s : Bytes) : Prop := s = [] ∨ ∃ digits, IsDigits digits ∧ s = 0x2e :: digits

/-- The letter of an exponent, a sign if there is one, and digits; or nothing. -/
def IsExponent (s : Bytes) : Prop :=
  s = [] ∨ ∃ (e : UInt8) (sign digits : Bytes), (e = 0x65 ∨ e = 0x45) ∧
    (sign = [] ∨ sign = [0x2b] ∨ sign = [0x2d]) ∧ IsDigits digits ∧ s = e :: (sign ++ digits)

/-- A number. -/
def IsNumber (s : Bytes) : Prop :=
  ∃ sign whole fraction exponent, (sign = [] ∨ sign = [0x2d]) ∧ IsWhole whole ∧
    IsFraction fraction ∧ IsExponent exponent ∧ s = sign ++ (whole ++ (fraction ++ exponent))

/-- A value with nothing inside. -/
inductive IsScalar : Bytes → Prop where
  | null : IsScalar [0x6e, 0x75, 0x6c, 0x6c]
  | true : IsScalar [0x74, 0x72, 0x75, 0x65]
  | false : IsScalar [0x66, 0x61, 0x6c, 0x73, 0x65]
  | number {s : Bytes} (digits : IsNumber s) : IsScalar s
  | text {q : Bytes} (quoted : IsQuoted q) : IsScalar (0x22 :: (q ++ [0x22]))

/-- Items with commas between them, each with white space around it. -/
inductive Listed : List Bytes → Bytes → Prop where
  | none {s : Bytes} (blank : IsBlank s) : Listed [] s
  | last {before item after : Bytes} (blank : IsBlank before) (blank' : IsBlank after) :
      Listed [item] (before ++ (item ++ after))
  | more {before item after s : Bytes} {next : Bytes} {items : List Bytes}
      (blank : IsBlank before) (blank' : IsBlank after) (rest : Listed (next :: items) s) :
      Listed (item :: next :: items) (before ++ (item ++ (after ++ 0x2c :: s)))

/-- A name that is spelled in this way, a colon, and a value. -/
inductive IsMember (q value : Bytes) : Bytes → Prop where
  | colon {before after : Bytes} (blank : IsBlank before) (blank' : IsBlank after) :
      IsMember q value (0x22 :: (q ++ 0x22 :: (before ++ 0x3a :: (after ++ value))))

/-- The text of a value. -/
inductive IsValue : Bytes → Prop where
  | scalar {s : Bytes} (simple : IsScalar s) : IsValue s
  | array {items : List Bytes} {s : Bytes} (listed : Listed items s)
      (values : ∀ item ∈ items, IsValue item) : IsValue (0x5b :: (s ++ [0x5d]))
  | object {members : List (Bytes × Bytes)} {texts : List Bytes} {s : Bytes}
      (listed : Listed texts s)
      (made : List.Forall₂ (fun member text => IsMember member.1 member.2 text) members texts)
      (names : ∀ member ∈ members, IsQuoted member.1)
      (values : ∀ member ∈ members, IsValue member.2) : IsValue (0x7b :: (s ++ [0x7d]))

/-! ## Objects by name -/

/-- The text of a string. -/
inductive IsTextOf (s : String) : Bytes → Prop where
  | quoted {q : Bytes} (spelled : Spells s.toList q) : IsTextOf s (0x22 :: (q ++ [0x22]))

/-- The text of an object that has these members in this order, with white space
    around it. -/
inductive IsObject (members : List (String × Bytes)) : Bytes → Prop where
  | braces {before s after : Bytes} {texts : List Bytes} (blank : IsBlank before)
      (blank' : IsBlank after) (listed : Listed texts s)
      (made : List.Forall₂ (fun member text => ∃ q, Spells member.1.toList q ∧
        IsMember q member.2 text) members texts)
      (values : ∀ member ∈ members, IsValue member.2) :
      IsObject members (before ++ (0x7b :: (s ++ [0x7d]) ++ after))

/-! ## White space -/

/-- What can follow a value: white space, a comma, or the end of a container. -/
def delimiters : Bytes := [0x20, 0x0a, 0x09, 0x0d, 0x2c, 0x5d, 0x7d]

/-- A delimiter, if anything, comes next. -/
def Delimited (rest : Bytes) : Prop := ∀ b ∈ rest.head?, b ∈ delimiters

/-- The delimiters one by one, for a case analysis. -/
theorem mem_delimiters {b : UInt8} : b ∈ delimiters ↔
    b = 0x20 ∨ b = 0x0a ∨ b = 0x09 ∨ b = 0x0d ∨ b = 0x2c ∨ b = 0x5d ∨ b = 0x7d := by
  simp only [delimiters, List.mem_cons, List.not_mem_nil, or_false]

/-- White space in front of a delimiter is one itself. -/
theorem delimited_append {s rest : Bytes} (h : IsBlank s) (hrest : Delimited rest) :
    Delimited (s ++ rest) := by
  cases s with
  | nil => exact hrest
  | cons b s =>
      intro b' hb
      rw [List.cons_append, List.head?_cons, Option.mem_some_iff] at hb
      subst hb
      rw [mem_delimiters]
      have hblank := h b (.head _)
      tauto

/-- White space is nothing to a reader of tokens, which drops it before it looks at
    a byte. -/
theorem nextToken_append {s : Bytes} (h : IsBlank s) (rest : Bytes) :
    nextToken (s ++ rest) = nextToken rest := by
  have hspace : ∀ b ∈ s, isSpace b = true := fun b hb => by
    rcases h b hb with rfl | rfl | rfl | rfl <;> rfl
  rw [nextToken, nextToken, List.dropWhile_append_of_pos hspace]

/-! ## Numbers -/

/-- What follows does not go on with bytes of a kind. -/
def Ends (p : UInt8 → Bool) (rest : Bytes) : Prop := ∀ b ∈ rest.head?, p b = false

/-- The values of digits. -/
def digitsOf (s : Bytes) : List Nat := s.map fun b => b.toNat - 0x30

variable {rest : Bytes}

/-- All digits of a run are taken, if the run ends there. -/
theorem takeDigits_append {digits : Bytes} (h : ∀ b ∈ digits, isDigit b = true)
    (hrest : Ends isDigit rest) : takeDigits (digits ++ rest) = (digitsOf digits, rest) := by
  -- Nothing of the rest is a digit at its beginning, so the run is the digits and no more.
  have hnone : rest.takeWhile isDigit = [] ∧ rest.dropWhile isDigit = rest := by
    cases rest with
    | nil => exact ⟨rfl, rfl⟩
    | cons b rest =>
        have hb : ¬ isDigit b = true := by rw [hrest b rfl]; exact Bool.false_ne_true
        exact ⟨List.takeWhile_cons_of_neg hb, List.dropWhile_cons_of_neg hb⟩
  rw [takeDigits, List.takeWhile_append_of_pos h, List.dropWhile_append_of_pos h, hnone.1, hnone.2,
    List.append_nil, digitsOf]

/-- A run of digits has a first one. -/
theorem digitsOf_ne_nil {digits : Bytes} (h : IsDigits digits) : digitsOf digits ≠ [] :=
  fun heq => h.1 (List.map_eq_nil_iff.mp heq)

/-- The whole part of a number is taken up to its end. A zero stands alone, so its
    end is not looked for. -/
theorem scanWhole_append {whole : Bytes} (h : IsWhole whole) (hrest : Ends isDigit rest) :
    scanWhole (whole ++ rest) = some (digitsOf whole, rest) := by
  rcases h with rfl | ⟨⟨hne, hdigits⟩, hzero⟩
  · rfl
  · cases whole with
    | nil => exact absurd rfl hne
    | cons b digits =>
        have hb : b ≠ 0x30 := fun heq => hzero (congrArg some heq)
        rw [List.cons_append, scanWhole, if_neg hb, if_pos (hdigits b (.head _)),
          takeDigits_append (fun b' hb' => hdigits b' (.tail _ hb')) hrest]
        rfl

/-- Digits between a mark in front of them and something that is none. There is a
    first one, which is what the reader asks for behind the mark. -/
theorem takeDigits_of_isDigits {digits : Bytes} (h : IsDigits digits) (hrest : Ends isDigit rest) :
    ∃ first others, digitsOf digits = first :: others ∧
      takeDigits (digits ++ rest) = (first :: others, rest) := by
  rcases List.exists_cons_of_ne_nil (digitsOf_ne_nil h) with ⟨first, others, hvalues⟩
  exact ⟨first, others, hvalues, hvalues ▸ takeDigits_append h.2 hrest⟩

/-- A fraction is taken up to its end. What it is read as does not depend on what
    follows. -/
theorem exists_scanFraction {fraction : Bytes} (h : IsFraction fraction) : ∃ values, ∀ rest,
    Ends isDigit rest → Ends (· == 0x2e) rest →
      scanFraction (fraction ++ rest) = some (values, rest) := by
  rcases h with rfl | ⟨digits, hdigits, rfl⟩
  · refine ⟨[], fun rest _ hpoint => ?_⟩
    cases rest with
    | nil => rfl
    | cons b rest =>
        -- Without a fraction, a point that follows would be taken for one.
        have hb : b ≠ 0x2e := beq_eq_false_iff_ne.mp (hpoint b rfl)
        rw [List.nil_append, scanFraction, if_neg hb]
  · refine ⟨digitsOf digits, fun rest hdigit _ => ?_⟩
    rcases takeDigits_of_isDigits hdigits hdigit with ⟨first, others, hvalues, htake⟩
    rw [List.cons_append, scanFraction, if_pos rfl, htake, hvalues]

/-- The sign of an exponent, or none: digits are not taken for one. -/
theorem scanSign_append {sign digits : Bytes} (h : sign = [] ∨ sign = [0x2b] ∨ sign = [0x2d])
    (hdigits : IsDigits digits) (rest : Bytes) :
    scanSign (sign ++ (digits ++ rest)) = (sign == [0x2d], digits ++ rest) := by
  rcases h with rfl | rfl | rfl
  · cases digits with
    | nil => exact absurd rfl hdigits.1
    | cons b digits =>
        have hb := hdigits.2 b (.head _)
        have hplus : b ≠ 0x2b := by rintro rfl; exact absurd hb (by decide)
        have hminus : b ≠ 0x2d := by rintro rfl; exact absurd hb (by decide)
        rw [List.nil_append, List.cons_append, scanSign, if_neg hplus, if_neg hminus]
        rfl
  · rfl
  · rfl

/-- An exponent is taken up to its end, in the same way. -/
theorem exists_scanExponent {exponent : Bytes} (h : IsExponent exponent) : ∃ value, ∀ rest,
    Ends isDigit rest → Ends (fun b => b == 0x65 || b == 0x45) rest →
      scanExponent (exponent ++ rest) = some (value, rest) := by
  rcases h with rfl | ⟨e, sign, digits, he, hsign, hdigits, rfl⟩
  · refine ⟨none, fun rest _ hletter => ?_⟩
    cases rest with
    | nil => rfl
    | cons b rest =>
        -- Without an exponent, its letter must not follow.
        have hb : ¬ (b = 0x65 || b = 0x45) = true := by
          have := hletter b rfl
          simpa using this
        rw [List.nil_append, scanExponent, if_neg hb]
  · refine ⟨some (sign == [0x2d], digitsOf digits), fun rest hdigit _ => ?_⟩
    rcases takeDigits_of_isDigits hdigits hdigit with ⟨first, others, hvalues, htake⟩
    have hletter : (e = 0x65 || e = 0x45) = true := by
      rw [Bool.or_eq_true, decide_eq_true_eq, decide_eq_true_eq]
      exact he
    rw [List.cons_append, List.append_assoc, scanExponent, if_pos hletter,
      scanSign_append hsign hdigits]
    simp only [htake, hvalues]

/-- What can follow a value ends a number. -/
theorem ends_of_delimited {p : UInt8 → Bool} (h : Delimited rest)
    (hp : delimiters.any p = false) : Ends p rest :=
  fun b hb => Bool.eq_false_iff.mpr (List.any_eq_false.mp hp b (h b hb))

/-- A part of a number that begins with a mark, or else what follows it, ends the
    part before. -/
theorem ends_append {p : UInt8 → Bool} {s : Bytes} (h : ∀ b ∈ s.head?, p b = false)
    (hrest : Ends p rest) : Ends p (s ++ rest) := by
  cases s with
  | nil => exact hrest
  | cons b s => exact h

/-- A fraction ends the digits before it, as it begins with a point. -/
theorem ends_fraction {fraction : Bytes} (h : IsFraction fraction) (hrest : Ends isDigit rest) :
    Ends isDigit (fraction ++ rest) := by
  refine ends_append (fun b hb => ?_) hrest
  rcases h with rfl | ⟨digits, -, rfl⟩
  · exact absurd hb nofun
  · obtain rfl := Option.some.inj hb
    rfl

/-- An exponent ends all parts in which its letter does not occur. -/
theorem ends_exponent {p : UInt8 → Bool} {exponent : Bytes} (h : IsExponent exponent)
    (hlower : p 0x65 = false) (hupper : p 0x45 = false) (hrest : Ends p rest) :
    Ends p (exponent ++ rest) := by
  refine ends_append (fun b hb => ?_) hrest
  rcases h with rfl | ⟨e, sign, digits, he, -, -, rfl⟩
  · exact absurd hb nofun
  · obtain rfl := Option.some.inj hb
    rcases he with rfl | rfl
    · exact hlower
    · exact hupper

/-- The parts of a number without its sign, one after the other. Each ends where the
    next one begins, and the last where the number does. -/
theorem exists_scanNumeral {whole fraction exponent : Bytes} (hwhole : IsWhole whole)
    (hfraction : IsFraction fraction) (hexponent : IsExponent exponent) (negative : Bool) :
    ∃ numeral, ∀ rest, Delimited rest →
      scanNumeral negative (whole ++ (fraction ++ (exponent ++ rest))) = some (numeral, rest) := by
  rcases exists_scanFraction hfraction with ⟨values, hvalues⟩
  rcases exists_scanExponent hexponent with ⟨value, hvalue⟩
  refine ⟨⟨negative, digitsOf whole, values, value⟩, fun rest hrest => ?_⟩
  have hdigit : Ends isDigit rest := ends_of_delimited hrest rfl
  -- What ends the exponent ends the fraction, and so on to the left.
  have hdigit' : Ends isDigit (exponent ++ rest) := ends_exponent hexponent rfl rfl hdigit
  have hpoint : Ends (· == 0x2e) (exponent ++ rest) :=
    ends_exponent hexponent rfl rfl (ends_of_delimited hrest rfl)
  simp only [scanNumeral, scanWhole_append hwhole (ends_fraction hfraction hdigit'),
    hvalues _ hdigit' hpoint, hvalue rest hdigit (ends_of_delimited hrest rfl),
    Option.bind_eq_bind, Option.bind_some, Option.pure_def]

/-- What a token can begin with that is no number, and white space. -/
def otherStarts : Bytes :=
  [0x20, 0x0a, 0x09, 0x0d, 0x5b, 0x5d, 0x7b, 0x7d, 0x3a, 0x2c, 0x22, 0x6e, 0x74, 0x66]

/-- A number begins like no other token, and its first byte tells which of the two
    readings is meant. -/
theorem nextToken_of_scanNumeral {b : UInt8} {s : Bytes} {numeral : Numeral}
    (h : b = 0x2d ∨ isDigit b = true)
    (scan : (if b = 0x2d then scanNumeral true s else scanNumeral false (b :: s)) =
      some (numeral, rest)) : nextToken (b :: s) = .token (.number numeral) rest := by
  -- The reader compares the byte with each other beginning first.
  have hne : ∀ b' ∈ otherStarts, b ≠ b' := by
    rintro b' hmem rfl
    have hother : (otherStarts.any fun b => b == 0x2d || isDigit b) = false := rfl
    refine List.any_eq_false.mp hother b hmem ?_
    rwa [Bool.or_eq_true, beq_iff_eq]
  simp only [otherStarts, List.forall_mem_cons, List.not_mem_nil, false_implies, implies_true,
    and_true] at hne
  have hspace : isSpace b = false := by
    simp only [isSpace, hne, decide_false, Bool.or_self]
  rw [nextToken, List.dropWhile_cons_of_neg (Bool.eq_false_iff.mp hspace)]
  simp only [tokenAt, hne, if_false, scan]

/-- A number is one token. -/
theorem nextToken_number {s : Bytes} (h : IsNumber s) : ∃ numeral, ∀ rest, Delimited rest →
    nextToken (s ++ rest) = .token (.number numeral) rest := by
  rcases h with ⟨sign, whole, fraction, exponent, hsign, hwhole, hfraction, hexponent, rfl⟩
  rcases hsign with rfl | rfl
  · rcases exists_scanNumeral hwhole hfraction hexponent false with ⟨numeral, hnumeral⟩
    refine ⟨numeral, fun rest hrest => ?_⟩
    have hscan := hnumeral rest hrest
    rw [List.nil_append, List.append_assoc, List.append_assoc]
    -- Without a sign the first byte is a digit.
    have hfirst : ∃ b tail, whole = b :: tail ∧ isDigit b = true := by
      rcases hwhole with rfl | ⟨⟨hne, hdigits⟩, -⟩
      · exact ⟨0x30, [], rfl, rfl⟩
      · rcases List.exists_cons_of_ne_nil hne with ⟨b, tail, rfl⟩
        exact ⟨b, tail, rfl, hdigits b (.head _)⟩
    rcases hfirst with ⟨b, tail, rfl, hdigit⟩
    have hminus : b ≠ 0x2d := by rintro rfl; exact absurd hdigit (by decide)
    exact nextToken_of_scanNumeral (.inr hdigit) (by rw [if_neg hminus]; exact hscan)
  · rcases exists_scanNumeral hwhole hfraction hexponent true with ⟨numeral, hnumeral⟩
    refine ⟨numeral, fun rest hrest => ?_⟩
    rw [List.append_assoc, List.append_assoc, List.append_assoc]
    exact nextToken_of_scanNumeral (.inl rfl) (by rw [if_pos rfl]; exact hnumeral rest hrest)

end Json

end EventFlow
