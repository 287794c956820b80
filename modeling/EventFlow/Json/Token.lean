import EventFlow.Text.Utf8

/-!
# JSON tokens

The lexical elements of a JSON text, read from its bytes.

A string is kept as the bytes it denotes together with a note on whether its escapes are sound,
since a string that is skipped may hold a lone surrogate or bytes that are not UTF-8, while one
that is used may not. A number is kept as its digits for the same reason: one that is skipped may be
out of range.

## Main definitions

* `Json.RawText`: the bytes of a string.
* `Json.Numeral`: the parts of a number.
* `Json.Token`: a lexical element.
* `Json.nextToken`: the first token of a text and what follows it.
-/

namespace EventFlow

namespace Json

/-- A string as it was written, escapes resolved. -/
structure RawText where
  /-- The bytes it denotes. -/
  bytes : Bytes
  /-- Whether every escaped surrogate has its partner. -/
  paired : Bool
  deriving DecidableEq, Repr, Inhabited

/-- The text of a string, if its escapes are sound and its bytes are UTF-8. -/
def RawText.text? (raw : RawText) : Option String :=
  if raw.paired then Bytes.text? raw.bytes else none

/-- A number as it was written. The digits are their values, most significant first. -/
structure Numeral where
  /-- Whether a minus sign stands in front. -/
  negative : Bool
  /-- The digits before the point. -/
  whole : List Nat
  /-- The digits after the point, if there is one. -/
  fraction : List Nat
  /-- The sign and the digits of the exponent, if there is one. -/
  exponent : Option (Bool × List Nat)
  deriving DecidableEq, Repr, Inhabited

/-- A lexical element. -/
inductive Token where
  | openArray
  | closeArray
  | openObject
  | closeObject
  | colon
  | comma
  | null
  | bool (value : Bool)
  | number (numeral : Numeral)
  | text (raw : RawText)
  deriving DecidableEq, Repr, Inhabited

/-- The value of a hexadecimal digit. -/
def hexValue? (b : UInt8) : Option Nat :=
  if 0x30 ≤ b && b ≤ 0x39 then some (b.toNat - 0x30)
  else if 0x41 ≤ b && b ≤ 0x46 then some (b.toNat - 0x41 + 10)
  else if 0x61 ≤ b && b ≤ 0x66 then some (b.toNat - 0x61 + 10)
  else none

/-- The byte that a one-letter escape stands for. -/
def letterEscape? (b : UInt8) : Option UInt8 :=
  if b = 0x22 || b = 0x5c || b = 0x2f then some b
  else if b = 0x62 then some 0x08
  else if b = 0x66 then some 0x0c
  else if b = 0x6e then some 0x0a
  else if b = 0x72 then some 0x0d
  else if b = 0x74 then some 0x09
  else none

def isHighSurrogate (n : Nat) : Bool := 0xd800 ≤ n && n ≤ 0xdbff

def isLowSurrogate (n : Nat) : Bool := 0xdc00 ≤ n && n ≤ 0xdfff

/-- The part of a string that has been read. -/
structure Scan where
  /-- The bytes so far, last first. -/
  reversed : Bytes
  /-- An escaped high surrogate that waits for its partner. -/
  waiting : Option Nat
  /-- Whether every surrogate before it had one. -/
  paired : Bool

namespace Scan

/-- Nothing read yet. -/
def start : Scan := ⟨[], none, true⟩

/-- A waiting surrogate will not get its partner. -/
def settle (s : Scan) : Scan :=
  { s with waiting := none, paired := s.paired && s.waiting.isNone }

/-- Adds a byte. -/
def push (s : Scan) (b : UInt8) : Scan :=
  { s.settle with reversed := b :: s.reversed }

/-- Adds a character. -/
def pushChar (s : Scan) (c : Char) : Scan :=
  { s with reversed := (String.utf8EncodeChar c).reverse ++ s.reversed }

/-- Adds the code unit of an escape. -/
def pushUnit (s : Scan) (n : Nat) : Scan :=
  match s.waiting with
  | some high =>
    if isLowSurrogate n then
      { s with waiting := none }.pushChar
        (Char.ofNat (0x10000 + (high - 0xd800) * 0x400 + (n - 0xdc00)))
    -- The first of two high ones stays alone; the second may still find its partner.
    else if isHighSurrogate n then { s with waiting := some n, paired := false }
    else s.settle.pushChar (Char.ofNat n)
  | none =>
    if isHighSurrogate n then { s with waiting := some n }
    else if isLowSurrogate n then { s with paired := false }
    else s.pushChar (Char.ofNat n)

/-- The string that has been read. -/
def finish (s : Scan) : RawText :=
  ⟨s.reversed.reverse, s.settle.paired⟩

end Scan

/-- Reads a string from after its opening quote. -/
def scanText (s : Scan) : Bytes → Option (RawText × Bytes)
  | [] => none
  | b :: rest =>
    if b = 0x22 then some (s.finish, rest)
    else if b = 0x5c then
      match rest with
      | [] => none
      | e :: rest =>
        if e = 0x75 then
          match rest with
          | h₁ :: h₂ :: h₃ :: h₄ :: rest =>
            match hexValue? h₁, hexValue? h₂, hexValue? h₃, hexValue? h₄ with
            | some a, some b, some c, some d =>
              scanText (s.pushUnit (((a * 16 + b) * 16 + c) * 16 + d)) rest
            | _, _, _, _ => none
          | _ => none
        else
          match letterEscape? e with
          | some x => scanText (s.push x) rest
          | none => none
    else if b < 0x20 then none
    else scanText (s.push b) rest

def isDigit (b : UInt8) : Bool := 0x30 ≤ b && b ≤ 0x39

/-- The digits at the start of a text, as values, and what follows them. -/
def takeDigits (s : Bytes) : List Nat × Bytes :=
  ((s.takeWhile isDigit).map fun b => b.toNat - 0x30, s.dropWhile isDigit)

/-- The digits before the point: a single zero, or digits that do not begin with one. -/
def scanWhole : Bytes → Option (List Nat × Bytes)
  | [] => none
  | b :: rest =>
    -- What follows a leading zero is not part of the whole number, not even a digit.
    if b = 0x30 then some ([0], rest)
    else if isDigit b then
      let (digits, rest) := takeDigits rest
      some ((b.toNat - 0x30) :: digits, rest)
    else none

/-- The digits after the point, none if there is no point. -/
def scanFraction : Bytes → Option (List Nat × Bytes)
  | [] => some ([], [])
  | b :: rest =>
    if b = 0x2e then
      match takeDigits rest with
      | ([], _) => none
      | (digits, rest) => some (digits, rest)
    else some ([], b :: rest)

/-- The sign of an exponent, the positive one if none is written. -/
def scanSign : Bytes → Bool × Bytes
  | [] => (false, [])
  | b :: rest =>
    if b = 0x2b then (false, rest)
    else if b = 0x2d then (true, rest)
    else (false, b :: rest)

/-- The exponent, if there is one. -/
def scanExponent : Bytes → Option (Option (Bool × List Nat) × Bytes)
  | [] => some (none, [])
  | b :: rest =>
    if b = 0x65 || b = 0x45 then
      let (negative, rest) := scanSign rest
      match takeDigits rest with
      | ([], _) => none
      | (digits, rest) => some (some (negative, digits), rest)
    else some (none, b :: rest)

/-- Reads a number from after its sign. -/
def scanNumeral (negative : Bool) (s : Bytes) : Option (Numeral × Bytes) := do
  let (whole, s) ← scanWhole s
  let (fraction, s) ← scanFraction s
  let (exponent, s) ← scanExponent s
  return (⟨negative, whole, fraction, exponent⟩, s)

/-- What is left after an expected word. -/
def dropWord? : (word : List UInt8) → Bytes → Option Bytes
  | [], s => some s
  | _ :: _, [] => none
  | w :: word, b :: s => if w = b then dropWord? word s else none

/-- White space between tokens. -/
def isSpace (b : UInt8) : Bool :=
  b = 0x20 || b = 0x0a || b = 0x09 || b = 0x0d

/-- What stands at the start of a text. -/
inductive Next where
  /-- Nothing but white space. -/
  | finished
  /-- Something that is no token. -/
  | malformed
  /-- A token, and what follows it. -/
  | token (token : Token) (rest : Bytes)

/-- A word that stands for a token. -/
def wordToken (word : List UInt8) (token : Token) (s : Bytes) : Next :=
  match dropWord? word s with
  | some rest => .token token rest
  | none => .malformed

/-- The token that starts with a byte. -/
def tokenAt (b : UInt8) (rest : Bytes) : Next :=
  if b = 0x5b then .token .openArray rest
  else if b = 0x5d then .token .closeArray rest
  else if b = 0x7b then .token .openObject rest
  else if b = 0x7d then .token .closeObject rest
  else if b = 0x3a then .token .colon rest
  else if b = 0x2c then .token .comma rest
  else if b = 0x22 then
    match scanText .start rest with
    | some (raw, rest) => .token (.text raw) rest
    | none => .malformed
  else if b = 0x6e then wordToken [0x75, 0x6c, 0x6c] .null rest
  else if b = 0x74 then wordToken [0x72, 0x75, 0x65] (.bool true) rest
  else if b = 0x66 then wordToken [0x61, 0x6c, 0x73, 0x65] (.bool false) rest
  else
    match (if b = 0x2d then scanNumeral true rest else scanNumeral false (b :: rest)) with
    | some (numeral, rest) => .token (.number numeral) rest
    | none => .malformed

/-- The first token of a text. -/
def nextToken (s : Bytes) : Next :=
  match s.dropWhile isSpace with
  | [] => .finished
  | b :: rest => tokenAt b rest

/-! ## A token takes something away -/

theorem length_le_of_scanText {s : Scan} {t : Bytes} {raw : RawText} {rest : Bytes}
    (h : scanText s t = some (raw, rest)) : rest.length ≤ t.length := by
  fun_induction scanText s t <;> grind

theorem length_takeDigits_le (s : Bytes) : (takeDigits s).2.length ≤ s.length :=
  (List.dropWhile_sublist isDigit).length_le

theorem length_lt_of_scanWhole {s rest : Bytes} {digits : List Nat}
    (h : scanWhole s = some (digits, rest)) : rest.length < s.length := by
  unfold scanWhole at h
  grind [length_takeDigits_le]

theorem length_le_of_scanFraction {s rest : Bytes} {digits : List Nat}
    (h : scanFraction s = some (digits, rest)) : rest.length ≤ s.length := by
  unfold scanFraction at h
  grind [length_takeDigits_le]

theorem length_scanSign_le (s : Bytes) : (scanSign s).2.length ≤ s.length := by
  unfold scanSign
  grind

theorem length_le_of_scanExponent {s rest : Bytes} {exponent : Option (Bool × List Nat)}
    (h : scanExponent s = some (exponent, rest)) : rest.length ≤ s.length := by
  unfold scanExponent at h
  grind [length_takeDigits_le, length_scanSign_le]

theorem length_lt_of_scanNumeral {negative : Bool} {s rest : Bytes} {numeral : Numeral}
    (h : scanNumeral negative s = some (numeral, rest)) : rest.length < s.length := by
  simp only [scanNumeral, Option.bind_eq_bind, Option.bind_eq_some_iff, Prod.exists,
    Option.pure_def, Option.some.injEq, Prod.mk.injEq] at h
  obtain ⟨_, s₁, h₁, _, s₂, h₂, _, s₃, h₃, _, rfl⟩ := h
  have := length_lt_of_scanWhole h₁
  have := length_le_of_scanFraction h₂
  have := length_le_of_scanExponent h₃
  omega

theorem length_le_of_dropWord? {word : List UInt8} {s rest : Bytes}
    (h : dropWord? word s = some rest) : rest.length ≤ s.length := by
  fun_induction dropWord? word s <;> grind

theorem length_le_of_wordToken {word : List UInt8} {t token : Token} {s rest : Bytes}
    (h : wordToken word t s = .token token rest) : rest.length ≤ s.length := by
  unfold wordToken at h
  split at h
  · rename_i hw
    cases h
    exact length_le_of_dropWord? hw
  · cases h

theorem length_le_of_tokenAt {b : UInt8} {s rest : Bytes} {token : Token}
    (h : tokenAt b s = .token token rest) : rest.length ≤ s.length := by
  unfold tokenAt at h
  iterate 6
    split at h
    · cases h
      exact Nat.le_refl _
  split at h
  · split at h
    · rename_i hs
      cases h
      exact length_le_of_scanText hs
    · cases h
  iterate 3
    split at h
    · exact length_le_of_wordToken h
  split at h
  · rename_i hs
    cases h
    split at hs
    · exact Nat.le_of_lt (length_lt_of_scanNumeral hs)
    · exact Nat.le_of_lt_succ (length_lt_of_scanNumeral hs)
  · cases h

/-- What follows a token is shorter than the text. -/
theorem length_lt_of_nextToken {s rest : Bytes} {token : Token}
    (h : nextToken s = .token token rest) : rest.length < s.length := by
  unfold nextToken at h
  have hle := (List.dropWhile_sublist (l := s) isSpace).length_le
  split at h
  · exact absurd h (by simp only [reduceCtorEq, not_false_eq_true])
  · rename_i b t hs
    have := length_le_of_tokenAt h
    rw [hs, List.length_cons] at hle
    omega

end Json

end EventFlow
