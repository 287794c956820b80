import EventFlow.Proofs.Text.Encoding
import EventFlow.Url.Percent

/-!
# Escapes

What is escaped is read back, and what is escaped is gone.

A reader of escapes cannot tell whether a percent sign was there before or
begins an escape, so a text survives escaping only where percent signs are
escaped themselves. That is the one condition of `decode_encode`; which other
characters are escaped makes no difference to the reader.

It makes a difference to whoever divides a URL into its parts. An escape is a
percent sign and two digits, so a character that is escaped and is none of
these no longer occurs at all (`not_mem_encode`).

## Theorems

* `decode_escapeByte`: An escape is read as its byte.
* `decode_encode`: What is escaped is read back.
* `not_mem_encode`: What is escaped no longer occurs.
-/

namespace EventFlow

namespace Percent

/-- A hexadecimal digit is read as its value. -/
theorem hexValue?_hexDigit {n : Nat} (h : n < 16) : hexValue? (hexDigit n) = some n := by
  have hall : ∀ m : Fin 16, hexValue? (hexDigit m) = some m.val := by decide
  exact hall ⟨n, h⟩

/-- An escape is read as its byte. -/
theorem decode_escapeByte (b : UInt8) (s : List Char) :
    decode (escapeByte b ++ s) = b :: decode s := by
  have hb : b.toNat < 256 := b.toNat_lt
  -- Two digits are enough for a byte, and they are its value.
  have hvalue : UInt8.ofNat (16 * (b.toNat / 16) + b.toNat % 16) = b := by
    rw [show 16 * (b.toNat / 16) + b.toNat % 16 = b.toNat by omega]
    exact UInt8.ofNat_toNat
  unfold escapeByte
  simp only [List.cons_append, List.nil_append]
  rw [decode, if_pos rfl, hexValue?_hexDigit (by omega), hexValue?_hexDigit (by omega)]
  simp only [hvalue]

/-- Escapes are read as their bytes, one after the other. -/
theorem decode_escapeBytes (bytes : Bytes) (s : List Char) :
    decode (bytes.flatMap escapeByte ++ s) = bytes ++ decode s := by
  induction bytes with
  | nil => rfl
  | cons b bytes ih =>
      rw [List.flatMap_cons, List.append_assoc, decode_escapeByte, ih]
      rfl

/-- Any character but a percent sign stands for itself. -/
theorem decode_cons {c : Char} (h : c ≠ '%') (s : List Char) :
    decode (c :: s) = String.utf8EncodeChar c ++ decode s := by
  cases s with
  | nil =>
      rw [decode, decode]
      exact (List.append_nil _).symm
  | cons d s =>
      cases s with
      | nil => rw [decode, decode]
      | cons e s => rw [decode, if_neg h]

/-- A character stands for itself if no escape begins with it. A percent sign may be
    one of these, if no two digits follow. -/
theorem decode_cons_of_not_escape {c : Char} {s : List Char} (h : ∀ d e rest, s = d :: e :: rest →
      hexValue? d = none ∨ hexValue? e = none) :
    decode (c :: s) = String.utf8EncodeChar c ++ decode s := by
  by_cases hc : c = '%'
  · match s, h with
    | [], _ =>
        rw [decode, decode]
        exact (List.append_nil _).symm
    | [d], _ => rw [decode, decode]
    | d :: e :: rest, h =>
        rw [decode, if_pos hc]
        rcases h d e rest rfl with hd | he
        · simp only [hd]
        · simp only [he]
          split
          · rename_i hfalse
            cases hfalse
          · rfl
  · exact decode_cons hc s

/-- Without percent signs, a text stands for itself. -/
theorem decode_of_not_mem {s : List Char} (h : '%' ∉ s) : decode s = Bytes.ofChars s := by
  induction s with
  | nil =>
      rw [decode]
      rfl
  | cons c s ih =>
      rw [List.mem_cons, not_or] at h
      rw [decode_cons (Ne.symm h.1), ih h.2, Bytes.ofChars_cons]

/-- A text without escapes stands for itself behind any other text, if no escape can
    reach into it. -/
theorem decode_append {t : List Char} (hsign : '%' ∉ t) (hhead : ∀ c ∈ t.head?, hexValue? c = none)
    (s : List Char) : decode (s ++ t) = decode s ++ Bytes.ofChars t := by
  have hplain : decode t = Bytes.ofChars t := decode_of_not_mem hsign
  have hhead : ∀ d rest, t = d :: rest → hexValue? d = none :=
    fun d rest ht => hhead d (by rw [ht]; rfl)
  -- At the end of the first text up to two characters are looked at behind it, so the cases are
  -- those of the reader.
  fun_induction decode s with
  | case1 => exact hplain
  | case2 c =>
      rw [List.singleton_append,
        decode_cons_of_not_escape fun d e rest ht => .inl (hhead d _ ht), hplain]
  | case3 c d =>
      rw [List.cons_append, List.singleton_append,
        decode_cons_of_not_escape fun d' e rest ht => .inr (hhead e rest (List.cons.inj ht).2),
        decode_cons_of_not_escape fun d e rest ht => .inl (hhead d _ ht), hplain, List.append_assoc]
  | case4 d e rest m n he hd ih =>
      simp only [List.cons_append, decode, if_true, hd, he, ih]
  | case5 d e rest hescape ih =>
      rw [List.cons_append, decode_cons_of_not_escape ?_, ih, List.append_assoc]
      intro d' e' rest' heq
      rcases List.cons.inj heq with ⟨hd', hrest⟩
      rw [← hd', ← (List.cons.inj hrest).1]
      -- The two characters are no digits, and they still are the ones that follow.
      cases hd : hexValue? d with
      | none => exact .inl rfl
      | some m => exact .inr (Option.eq_none_iff_forall_ne_some.mpr fun n he => hescape m n hd he)
  | case6 c d e rest hc ih =>
      rw [List.cons_append, decode_cons hc, ih, List.append_assoc]

/-- What is escaped is read back, if percent signs are escaped. -/
theorem decode_encode {p : Char → Bool} (h : p '%' = true) (s : List Char) :
    decode (encode p s) = Bytes.ofChars s := by
  induction s with
  | nil =>
      rw [encode_nil, decode]
      rfl
  | cons c s ih =>
      have hcons : encode p (c :: s) = (if p c then escapeChar c else [c]) ++ encode p s := rfl
      rw [hcons, Bytes.ofChars_cons]
      by_cases hp : p c = true
      · rw [if_pos hp, escapeChar, decode_escapeBytes, ih]
      · -- A percent sign is escaped, so this is another character.
        have hne : c ≠ '%' := fun heq => hp (heq ▸ h)
        rw [if_neg hp, List.singleton_append, decode_cons hne, ih]

/-- An escape consists of a percent sign and of digits. -/
theorem of_mem_escapeByte {b : UInt8} {c : Char} (h : c ∈ escapeByte b) :
    c = '%' ∨ ∃ n < 16, c = hexDigit n := by
  have hb : b.toNat < 256 := b.toNat_lt
  unfold escapeByte at h
  simp only [List.mem_cons, List.not_mem_nil, or_false] at h
  rcases h with h | h | h
  · exact .inl h
  · exact .inr ⟨_, by omega, h⟩
  · exact .inr ⟨_, by omega, h⟩

/-- What is escaped no longer occurs, if it is no part of an escape. -/
theorem not_mem_encode {p : Char → Bool} {c : Char} (h : p c = true) (hsign : c ≠ '%')
    (hdigit : ∀ n < 16, c ≠ hexDigit n) (s : List Char) : c ∉ encode p s := by
  unfold encode
  rw [List.mem_flatMap]
  rintro ⟨d, -, hd⟩
  by_cases hp : p d = true
  · rw [if_pos hp, escapeChar, List.mem_flatMap] at hd
    rcases hd with ⟨b, -, hb⟩
    -- It would be in an escape, or be kept though it is to be escaped.
    rcases of_mem_escapeByte hb with heq | ⟨n, hn, heq⟩
    · exact hsign heq
    · exact hdigit n hn heq
  · rw [if_neg hp, List.mem_singleton] at hd
    exact hp (hd ▸ h)

/-- What is not escaped still occurs. For a comma this is why it is seen wherever it
    stands. -/
theorem mem_encode {p : Char → Bool} {c : Char} {s : List Char} (hp : p c = false) (h : c ∈ s) :
    c ∈ encode p s :=
  List.mem_flatMap.mpr ⟨c, h, by rw [hp]; exact .head _⟩

end Percent

end EventFlow
