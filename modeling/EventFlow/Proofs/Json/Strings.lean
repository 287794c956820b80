import EventFlow.Json.Value
import EventFlow.Proofs.Text.Encoding

/-!
# Strings in JSON

However a string is spelled, it is read as the string that it spells.

A writer has one way to write a string, a reader has to put up with all of them.
A character may stand for itself, some may be a backslash and a letter, any may
be an escape of four digits in upper or lower case, and one beyond the first
plane two of these, which make sense together only. `Spells` is all of this,
one character at a time, and by induction on it the reader arrives at the
encoding of the characters (`scanText_of_spells`). Between two characters it
waits for nothing: it is always at a `Scan.clean`.

What the writer here makes of a string is one of its spellings
(`spells_escaped`), so there is nothing more to be said of that.

Not everything between two quotes spells a string. An escape may be half of a
pair whose other half is missing, and bytes need not be characters. Such a
string can still be skipped, and `IsQuoted` says what is skipped: it is of no
concern what an escape stands for, as long as it is one.

## Main definitions

* `Scan.clean`: A reader that has read whole characters.
* `RawText.ofText`: A string as it is read from what spells it.
* `letterEscapes`: The escapes of one letter.
* `Hex`: Four digits and the code unit that they stand for.
* `Spells`: What spells a string.
* `IsQuoted`: What may stand between two quotes.

## Theorems

* `scanText_of_spells`: A string is read as what is spelled.
* `scanText_of_isQuoted`: A string is read somehow.
* `nextToken_quoted`: Either is one token.
* `spells_escaped`: What is written for a string spells it.
* `text?_ofText`: What is read of a spelling denotes the string.
-/

namespace EventFlow

namespace Json

/-- A reader that has read whole characters, and waits for no surrogate. -/
def Scan.clean (reversed : Bytes) : Scan := ⟨reversed, none, true⟩

/-- A string as it is read from what spells it. -/
def RawText.ofText (s : String) : RawText := ⟨Bytes.ofText s, true⟩

/-- What was read of a spelling denotes the string again, as its bytes are the
    encoding of that. -/
@[simp] theorem RawText.text?_ofText (s : String) : (RawText.ofText s).text? = some s :=
  Bytes.text?_ofText s

/-- A byte more leaves a clean reader clean. -/
theorem Scan.push_clean (reversed : Bytes) (b : UInt8) :
    (Scan.clean reversed).push b = .clean (b :: reversed) := rfl

/-! ## Spellings -/

/-- The letters of escapes of one letter, and what they stand for. -/
def letterEscapes : List (UInt8 × Char) :=
  [(0x22, '\x22'), (0x5c, '\\'), (0x2f, '/'), (0x62, '\x08'), (0x66, '\x0c'), (0x6e, '\n'),
    (0x72, '\r'), (0x74, '\t')]

/-- Four hexadecimal digits that stand for a code unit. -/
inductive Hex : Nat → Bytes → Prop where
  | digits {h₁ h₂ h₃ h₄ : UInt8} {a b c d : Nat} (first : hexValue? h₁ = some a)
      (second : hexValue? h₂ = some b) (third : hexValue? h₃ = some c)
      (fourth : hexValue? h₄ = some d) :
      Hex (((a * 16 + b) * 16 + c) * 16 + d) [h₁, h₂, h₃, h₄]

/-- The first of the two code units of a character beyond the first plane. -/
def highUnit (c : Char) : Nat := 0xd800 + (c.toNat - 0x10000) / 0x400

/-- The second of them. -/
def lowUnit (c : Char) : Nat := 0xdc00 + (c.toNat - 0x10000) % 0x400

/-- These bytes, between two quotes, spell a string of these characters. There is
    one constructor for each way to spell a character, and any of them may be chosen
    for any character that has it. -/
inductive Spells : List Char → Bytes → Prop where
  | nil : Spells [] []
  /-- A character stands for itself. -/
  | plain {c : Char} {s : List Char} {q : Bytes} (quote : c ≠ '\x22') (slash : c ≠ '\\')
      (control : ¬ c.toNat < 0x20) (rest : Spells s q) :
      Spells (c :: s) (String.utf8EncodeChar c ++ q)
  /-- A letter stands for a character. -/
  | letter {e : UInt8} {c : Char} {s : List Char} {q : Bytes} (known : (e, c) ∈ letterEscapes)
      (rest : Spells s q) : Spells (c :: s) (0x5c :: e :: q)
  /-- Four digits stand for a character. -/
  | unit {c : Char} {s : List Char} {hex q : Bytes} (value : Hex c.toNat hex)
      (rest : Spells s q) : Spells (c :: s) (0x5c :: 0x75 :: hex ++ q)
  /-- Twice four digits stand for a character. -/
  | pair {c : Char} {s : List Char} {hex hex' q : Bytes} (beyond : 0x10000 ≤ c.toNat)
      (high : Hex (highUnit c) hex) (low : Hex (lowUnit c) hex') (rest : Spells s q) :
      Spells (c :: s) (0x5c :: 0x75 :: hex ++ 0x5c :: 0x75 :: hex' ++ q)

/-- These bytes may stand between two quotes. Nothing is said of what they stand
    for: a half of a pair may stand alone, and the bytes need not be characters. -/
inductive IsQuoted : Bytes → Prop where
  | nil : IsQuoted []
  | plain {b : UInt8} {q : Bytes} (quote : b ≠ 0x22) (slash : b ≠ 0x5c) (control : ¬ b < 0x20)
      (rest : IsQuoted q) : IsQuoted (b :: q)
  | letter {e : UInt8} {c : Char} {q : Bytes} (known : (e, c) ∈ letterEscapes)
      (rest : IsQuoted q) : IsQuoted (0x5c :: e :: q)
  | unit {n : Nat} {hex q : Bytes} (value : Hex n hex) (rest : IsQuoted q) :
      IsQuoted (0x5c :: 0x75 :: hex ++ q)

/-! ## Escapes -/

/-- The reader knows the letters, and none of them is the one for four digits. All
    of them stand for single bytes. -/
theorem letterEscape?_of_mem {e : UInt8} {c : Char} (h : (e, c) ∈ letterEscapes) :
    e ≠ 0x75 ∧ letterEscape? e = some (UInt8.ofNat c.toNat) ∧ c.toNat < 0x80 := by
  have hall : ∀ entry ∈ letterEscapes, entry.1 ≠ 0x75 ∧
      letterEscape? entry.1 = some (UInt8.ofNat entry.2.toNat) ∧ entry.2.toNat < 0x80 := by decide
  exact hall (e, c) h

/-- A quote ends the string. -/
theorem scanText_quote (s : Scan) (rest : Bytes) :
    scanText s (0x22 :: rest) = some (s.finish, rest) := by
  unfold scanText
  rw [if_pos rfl]

/-- A byte without a meaning of its own is taken as it is. -/
theorem scanText_push {b : UInt8} (quote : b ≠ 0x22) (slash : b ≠ 0x5c) (control : ¬ b < 0x20)
    (s : Scan) (rest : Bytes) : scanText s (b :: rest) = scanText (s.push b) rest := by
  -- Only the left side is opened: the right side is the same function at the rest.
  conv => lhs; unfold scanText
  rw [if_neg quote, if_neg slash, if_neg control]

/-- A backslash and a letter are taken as the byte that they stand for. -/
theorem scanText_letterEscape {e : UInt8} {c : Char} (h : (e, c) ∈ letterEscapes) (s : Scan)
    (rest : Bytes) :
    scanText s (0x5c :: e :: rest) = scanText (s.push (UInt8.ofNat c.toNat)) rest := by
  rcases letterEscape?_of_mem h with ⟨hu, hletter, -⟩
  conv => lhs; unfold scanText
  rw [if_neg (by decide), if_pos rfl]
  simp only [if_neg hu, hletter]

/-- A backslash and four digits are taken as a code unit, and what becomes of that
    depends on the one before. -/
theorem scanText_escape {n : Nat} {hex : Bytes} (h : Hex n hex) (s : Scan) (rest : Bytes) :
    scanText s (0x5c :: 0x75 :: hex ++ rest) = scanText (s.pushUnit n) rest := by
  cases h with
  | digits first second third fourth =>
      simp only [List.cons_append, List.nil_append]
      conv => lhs; unfold scanText
      rw [if_neg (by decide), if_pos rfl]
      simp only [if_true, first, second, third, fourth]

/-- Bytes that stand for themselves. -/
theorem scanText_plain {s : Bytes} (h : ∀ b ∈ s, b ≠ 0x22 ∧ b ≠ 0x5c ∧ ¬ b < 0x20)
    (reversed rest : Bytes) :
    scanText (.clean reversed) (s ++ rest) = scanText (.clean (s.reverse ++ reversed)) rest := by
  induction s generalizing reversed with
  | nil => rfl
  | cons b s ih =>
      rcases h b (.head s) with ⟨quote, slash, control⟩
      rw [List.cons_append, scanText_push quote slash control, Scan.push_clean,
        ih (fun b' hb => h b' (.tail b hb)), List.reverse_cons, List.append_assoc]
      rfl

/-- A character is no surrogate. -/
theorem not_isSurrogate (c : Char) :
    isHighSurrogate c.toNat = false ∧ isLowSurrogate c.toNat = false := by
  have hvalid : c.toNat < 0xd800 ∨ 0xdfff < c.toNat ∧ c.toNat < 0x110000 := c.valid
  unfold isHighSurrogate isLowSurrogate
  rw [Bool.and_eq_false_iff, Bool.and_eq_false_iff, decide_eq_false_iff_not,
    decide_eq_false_iff_not, decide_eq_false_iff_not, decide_eq_false_iff_not]
  omega

/-- The code unit of a character is that character, if no half of a pair is waiting. -/
theorem pushUnit_clean (c : Char) (reversed : Bytes) :
    (Scan.clean reversed).pushUnit c.toNat =
      .clean ((String.utf8EncodeChar c).reverse ++ reversed) := by
  rcases not_isSurrogate c with ⟨hhigh, hlow⟩
  unfold Scan.pushUnit Scan.clean
  simp only [hhigh, hlow, Bool.false_eq_true, if_false, Scan.pushChar, Char.ofNat_toNat]

/-- The first unit of a pair is a half that waits for another one. -/
theorem isHighSurrogate_highUnit {c : Char} (h : 0x10000 ≤ c.toNat) :
    isHighSurrogate (highUnit c) = true := by
  have hvalid : c.toNat < 0xd800 ∨ 0xdfff < c.toNat ∧ c.toNat < 0x110000 := c.valid
  unfold isHighSurrogate highUnit
  rw [Bool.and_eq_true, decide_eq_true_eq, decide_eq_true_eq]
  omega

/-- The second unit is such another one. -/
theorem isLowSurrogate_lowUnit (c : Char) : isLowSurrogate (lowUnit c) = true := by
  unfold isLowSurrogate lowUnit
  rw [Bool.and_eq_true, decide_eq_true_eq, decide_eq_true_eq]
  omega

/-- Two code units that belong together say which character they stand for: they
    have its upper and its lower bits. -/
theorem ofNat_units {c : Char} (h : 0x10000 ≤ c.toNat) :
    Char.ofNat (0x10000 + (highUnit c - 0xd800) * 0x400 + (lowUnit c - 0xdc00)) = c := by
  have hvalue : 0x10000 + (highUnit c - 0xd800) * 0x400 + (lowUnit c - 0xdc00) = c.toNat := by
    unfold highUnit lowUnit
    omega
  rw [hvalue, Char.ofNat_toNat]

/-- Two code units that belong together are one character, and then the reader is
    clean again. -/
theorem pushUnit_pair {c : Char} (h : 0x10000 ≤ c.toNat) (reversed : Bytes) :
    ((Scan.clean reversed).pushUnit (highUnit c)).pushUnit (lowUnit c) =
      .clean ((String.utf8EncodeChar c).reverse ++ reversed) := by
  -- The first one adds nothing yet.
  have hwaits : (Scan.clean reversed).pushUnit (highUnit c) =
      ⟨reversed, some (highUnit c), true⟩ := by
    unfold Scan.pushUnit Scan.clean
    simp only [isHighSurrogate_highUnit h, if_true]
  rw [hwaits]
  unfold Scan.pushUnit
  simp only [isLowSurrogate_lowUnit c, if_true, Scan.pushChar]
  rw [ofNat_units h]
  rfl

/-- A character that is no control has no byte of one. -/
theorem not_lt_of_mem_encode {c : Char} {b : UInt8} (h : ¬ c.toNat < 0x20)
    (hb : b ∈ String.utf8EncodeChar c) : ¬ b < 0x20 := by
  rw [UInt8.lt_iff_toNat_lt]
  change ¬ b.toNat < 32
  -- Beyond ASCII all bytes are large, and within it there is one, which is the character.
  by_cases hascii : c.toNat < 0x80
  · rw [Bytes.encode_ascii hascii, List.mem_singleton] at hb
    rw [hb, UInt8.toNat_ofNat']
    omega
  · have := Bytes.le_of_mem_encode (Nat.le_of_not_lt hascii) hb
    omega

/-- No byte of a character that stands for itself is special. -/
theorem ne_of_mem_encode {c : Char} (quote : c ≠ '\x22') (slash : c ≠ '\\')
    (control : ¬ c.toNat < 0x20) {b : UInt8} (hb : b ∈ String.utf8EncodeChar c) :
    b ≠ 0x22 ∧ b ≠ 0x5c ∧ ¬ b < 0x20 :=
  ⟨Bytes.ne_of_mem_encode (d := '\x22') (by decide) quote hb,
    Bytes.ne_of_mem_encode (d := '\\') (by decide) slash hb, not_lt_of_mem_encode control hb⟩

/-! ## Strings -/

/-- What spells a string is read as the characters that it spells. The induction is
    on the spelling, with what was read before left open. -/
theorem scanText_of_spells {s : List Char} {q : Bytes} (h : Spells s q) (reversed rest : Bytes) :
    scanText (.clean reversed) (q ++ rest) =
      scanText (.clean ((Bytes.ofChars s).reverse ++ reversed)) rest := by
  -- The reader goes from one clean state to the next, with one character more.
  have hmore : ∀ (c : Char) (s : List Char) (reversed : Bytes),
      (Bytes.ofChars (c :: s)).reverse ++ reversed =
        (Bytes.ofChars s).reverse ++ ((String.utf8EncodeChar c).reverse ++ reversed) := by
    intro c s reversed
    rw [Bytes.ofChars_cons, List.reverse_append, List.append_assoc]
  induction h generalizing reversed with
  | nil => rfl
  | @plain c s q quote slash control _ ih =>
      rw [List.append_assoc, scanText_plain fun b hb => ne_of_mem_encode quote slash control hb,
        ih, hmore]
  | @letter e c s q known _ ih =>
      have hencode := Bytes.encode_ascii (letterEscape?_of_mem known).2.2
      rw [List.cons_append, List.cons_append, scanText_letterEscape known, Scan.push_clean, ih,
        hmore, hencode]
      rfl
  | @unit c s hex q value _ ih =>
      rw [List.append_assoc, scanText_escape value, pushUnit_clean, ih, hmore]
  | @pair c s hex hex' q beyond high low _ ih =>
      -- Between the two halves the reader is not clean, so they are taken together.
      rw [List.append_assoc, List.append_assoc, scanText_escape high, scanText_escape low,
        pushUnit_pair beyond, ih, hmore]

/-- And from the beginning on, with the quote behind it, it is the string. -/
theorem scanText_start_of_spells {s : String} {q : Bytes} (h : Spells s.toList q) (rest : Bytes) :
    scanText .start (q ++ 0x22 :: rest) = some (.ofText s, rest) := by
  change scanText (.clean []) _ = _
  rw [scanText_of_spells h, List.append_nil, scanText_quote, RawText.ofText, Bytes.ofText_eq,
    Scan.finish]
  simp only [Scan.clean, List.reverse_reverse]
  rfl

/-- What may stand between two quotes is read as some string. Which one may depend
    on what is waiting, so the state of the reader is left open. -/
theorem scanText_of_isQuoted {q : Bytes} (h : IsQuoted q) (s : Scan) :
    ∃ raw, ∀ rest, scanText s (q ++ 0x22 :: rest) = some (raw, rest) := by
  induction h generalizing s with
  | nil => exact ⟨s.finish, scanText_quote s⟩
  | @plain b q quote slash control _ ih =>
      rcases ih (s.push b) with ⟨raw, hraw⟩
      exact ⟨raw, fun rest => (scanText_push quote slash control s _).trans (hraw rest)⟩
  | @letter e c q known _ ih =>
      rcases ih (s.push (UInt8.ofNat c.toNat)) with ⟨raw, hraw⟩
      exact ⟨raw, fun rest => (scanText_letterEscape known s _).trans (hraw rest)⟩
  | @unit n hex q value _ ih =>
      rcases ih (s.pushUnit n) with ⟨raw, hraw⟩
      refine ⟨raw, fun rest => ?_⟩
      rw [List.append_assoc, scanText_escape value, hraw]

/-- A string whose bytes are read in this way is one token. -/
theorem nextToken_quoted {q rest : Bytes} {raw : RawText}
    (h : scanText .start (q ++ 0x22 :: rest) = some (raw, rest)) :
    nextToken (0x22 :: (q ++ 0x22 :: rest)) = .token (.text raw) rest := by
  rw [nextToken, List.dropWhile_cons_of_neg (by decide)]
  change tokenAt 0x22 _ = _
  unfold tokenAt
  simp only [h]
  rfl

/-- What spells a string may stand between two quotes. -/
theorem isQuoted_of_spells {s : List Char} {q : Bytes} (h : Spells s q) : IsQuoted q := by
  induction h with
  | nil => exact .nil
  | @plain c s q quote slash control _ ih =>
      -- A character that stands for itself may be several bytes, and each of them stands for
      -- itself.
      have hall : ∀ bytes : Bytes, (∀ b ∈ bytes, b ≠ 0x22 ∧ b ≠ 0x5c ∧ ¬ b < 0x20) →
          IsQuoted (bytes ++ q) := by
        intro bytes hbytes
        induction bytes with
        | nil => exact ih
        | cons b bytes ihb =>
            rcases hbytes b (.head _) with ⟨quote, slash, control⟩
            exact .plain quote slash control (ihb fun b' hb => hbytes b' (.tail _ hb))
      exact hall _ fun b hb => ne_of_mem_encode quote slash control hb
  | letter known _ ih => exact .letter known ih
  | unit value _ ih => exact .unit value ih
  | @pair c s hex hex' q _ high low _ ih =>
      rw [List.append_assoc]
      exact .unit high (.unit low ih)

/-! ## Written strings -/

/-- A hexadecimal digit is read as its value. -/
theorem hexValue?_hexDigit (n : Nat) :
    hexValue? (UInt8.ofNat (hexDigit n).toNat) = some (n % 16) := by
  have hall : ∀ m : Fin 16, hexValue? (UInt8.ofNat (Nat.digitChar m).toNat) = some m.val := by
    decide
  exact hall ⟨n % 16, Nat.mod_lt n (by omega)⟩

/-- A hexadecimal digit is a single byte. -/
theorem hexDigit_lt (n : Nat) : (hexDigit n).toNat < 0x80 := by
  have hall : ∀ m : Fin 16, (Nat.digitChar m).toNat < 0x80 := by decide
  exact hall ⟨n % 16, Nat.mod_lt n (by omega)⟩

/-- What is written for a character, and then a spelling, spells this character and
    what is spelled. -/
theorem Spells.escapeChar {s : List Char} {q : Bytes} (h : Spells s q) (c : Char) :
    Spells (c :: s) (Bytes.ofChars (Json.escapeChar c) ++ q) := by
  have hletter : ∀ {e : UInt8} {d : Char}, c = d → (e, d) ∈ letterEscapes →
      Spells (c :: s) (0x5c :: e :: q) := fun heq known => .letter (heq ▸ known) h
  unfold Json.escapeChar
  split
  · -- A quote or a backslash stands behind a backslash.
    rename_i hspecial
    simp only [Bool.or_eq_true, decide_eq_true_eq] at hspecial
    rcases hspecial with rfl | rfl
    · exact hletter rfl (by simp [letterEscapes])
    · exact hletter rfl (by simp [letterEscapes])
  rename_i hspecial
  split
  · exact hletter ‹_› (by simp [letterEscapes])
  split
  · exact hletter ‹_› (by simp [letterEscapes])
  split
  · exact hletter ‹_› (by simp [letterEscapes])
  split
  · exact hletter ‹_› (by simp [letterEscapes])
  split
  · exact hletter ‹_› (by simp [letterEscapes])
  split
  · rename_i hcontrol
    -- A control needs two digits, and the other two are zero.
    have hhex : Hex (((0 * 16 + 0) * 16 + c.toNat / 16 % 16) * 16 + c.toNat % 16)
        [0x30, 0x30, UInt8.ofNat (hexDigit (c.toNat / 16)).toNat,
          UInt8.ofNat (hexDigit c.toNat).toNat] :=
      .digits rfl rfl (hexValue?_hexDigit _) (hexValue?_hexDigit _)
    have hvalue : ((0 * 16 + 0) * 16 + c.toNat / 16 % 16) * 16 + c.toNat % 16 = c.toNat := by
      omega
    rw [hvalue] at hhex
    have hbytes : Bytes.ofChars ['\\', 'u', '0', '0', hexDigit (c.toNat / 16), hexDigit c.toNat] =
        [0x5c, 0x75, 0x30, 0x30, UInt8.ofNat (hexDigit (c.toNat / 16)).toNat,
          UInt8.ofNat (hexDigit c.toNat).toNat] := by
      simp only [Bytes.ofChars_cons, Bytes.encode_ascii (hexDigit_lt _), Bytes.ofChars_nil]
      rfl
    rw [hbytes]
    exact .unit hhex h
  · -- Anything else stands for itself.
    rename_i _ _ _ _ _ hcontrol
    simp only [Bool.or_eq_true, decide_eq_true_eq, not_or] at hspecial
    rw [Bytes.ofChars_cons, Bytes.ofChars_nil, List.append_nil]
    exact .plain hspecial.1 hspecial.2 hcontrol h

/-- What is written for a string spells it. -/
theorem spells_escaped (s : List Char) : Spells s (Bytes.ofChars (s.flatMap Json.escapeChar)) := by
  induction s with
  | nil => exact .nil
  | cons c s ih =>
      rw [List.flatMap_cons, Bytes.ofChars_append]
      exact ih.escapeChar c

/-- The text of a string is its escaped characters between quotes. -/
theorem ofChars_writeText (s : String) : Bytes.ofChars (writeText s) =
    0x22 :: (Bytes.ofChars (s.toList.flatMap Json.escapeChar) ++ [0x22]) := by
  rw [writeText, Bytes.ofChars_cons, Bytes.ofChars_append]
  rfl

end Json

end EventFlow
