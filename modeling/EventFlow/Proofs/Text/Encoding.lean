import EventFlow.Text.Utf8
import Mathlib.Data.List.Basic

/-!
# The Encoding of Characters

What UTF-8 makes of a text, one character at a time.

`Bytes.ofText` encodes a text as a whole. Whoever writes or reads a text does it
one character after the other, so `Bytes.ofChars` puts the encodings of the
characters together, and `ofText_eq` says that this comes to the same.

ASCII has a byte to itself for each character, and no byte of any other
character is one of these. A reader that looks for an ASCII character in the
bytes therefore never finds it inside of another one; `ne_of_mem_encode` is all
that most readers need to know of UTF-8.

## Main definitions

* `Bytes.ofChars`: The encodings of characters, one after the other.

## Theorems

* `ofText_eq`: A text is encoded character by character.
* `encode_ascii`: An ASCII character is encoded as one byte.
* `le_of_mem_encode`: No other character has an ASCII byte.
* `ne_of_mem_encode`: Bytes tell an ASCII character from all others.
* `getLast?_ofChars`: How a text ends.
-/

namespace EventFlow

namespace Bytes

/-- The encodings of characters, one after the other. -/
def ofChars (s : List Char) : Bytes := s.flatMap String.utf8EncodeChar

@[simp] theorem ofChars_nil : ofChars [] = [] := rfl

@[simp] theorem ofChars_cons (c : Char) (s : List Char) :
    ofChars (c :: s) = String.utf8EncodeChar c ++ ofChars s := rfl

@[simp] theorem ofChars_append (s t : List Char) :
    ofChars (s ++ t) = ofChars s ++ ofChars t :=
  List.flatMap_append

/-- A text that is made of characters is encoded one by one. This is where the
    encoding of a text as a whole is opened; all else is about lists of characters. -/
theorem ofText_ofList (s : List Char) : ofText (String.ofList s) = ofChars s := by
  unfold ofText ofChars
  change (String.ofList s).toByteArray.data.toList = _
  rw [String.toByteArray_ofList, List.utf8Encode, List.toList_data_toByteArray]

/-- A text is encoded character by character. -/
theorem ofText_eq (s : String) : ofText s = ofChars s.toList := by
  rw [← ofText_ofList, String.ofList_toList]

/-- No two texts have the same encoding. A reader that finds the bytes of a text has
    found that text. -/
theorem ofChars_injective {s t : List Char} (h : ofChars s = ofChars t) : s = t := by
  rw [← ofText_ofList, ← ofText_ofList] at h
  exact String.ofList_injective (ofText_injective h)

/-- Only the empty text is encoded as no bytes. -/
theorem ofText_eq_nil {s : String} : ofText s = [] ↔ s = "" :=
  ⟨fun h => ofText_injective (h.trans (show [] = ofText "" from rfl)), fun h => h ▸ rfl⟩

/-- An ASCII character is encoded as one byte. -/
theorem encode_ascii {c : Char} (h : c.toNat < 0x80) :
    String.utf8EncodeChar c = [UInt8.ofNat c.toNat] := by
  have hle : c.val.toNat ≤ 127 := Nat.le_of_lt_succ h
  unfold String.utf8EncodeChar
  rw [if_pos hle]
  rfl

/-- The bytes of any other character are no ASCII: the first of them says how many
    there are, the others that they are not the first, and all have their highest
    bit set. -/
theorem le_of_mem_encode {c : Char} {b : UInt8} (h : 0x80 ≤ c.toNat)
    (hb : b ∈ String.utf8EncodeChar c) : 0x80 ≤ b.toNat := by
  have hlarge : ¬ c.val.toNat ≤ 127 := Nat.not_le.mpr h
  -- Each of these bytes has its highest bit from a summand of its own.
  have hbound : ∀ n m : Nat, m < 128 → 128 ≤ n → n + m < 256 →
      0x80 ≤ (UInt8.ofNat (m + n)).toNat := by
    intro n m _ hn hlt
    rw [UInt8.toNat_ofNat']
    omega
  unfold String.utf8EncodeChar at hb
  simp only [if_neg hlarge] at hb
  -- Two, three or four bytes, by the size of the character.
  split at hb
  · simp only [List.mem_cons, List.not_mem_nil, or_false] at hb
    rcases hb with rfl | rfl
    · exact hbound _ _ (by omega) (by omega) (by omega)
    · exact hbound _ _ (by omega) (by omega) (by omega)
  split at hb
  · simp only [List.mem_cons, List.not_mem_nil, or_false] at hb
    rcases hb with rfl | rfl | rfl
    · exact hbound _ _ (by omega) (by omega) (by omega)
    · exact hbound _ _ (by omega) (by omega) (by omega)
    · exact hbound _ _ (by omega) (by omega) (by omega)
  · simp only [List.mem_cons, List.not_mem_nil, or_false] at hb
    rcases hb with rfl | rfl | rfl | rfl
    · exact hbound _ _ (by omega) (by omega) (by omega)
    · exact hbound _ _ (by omega) (by omega) (by omega)
    · exact hbound _ _ (by omega) (by omega) (by omega)
    · exact hbound _ _ (by omega) (by omega) (by omega)

/-- Bytes tell an ASCII character from all others. -/
theorem ne_of_mem_encode {c d : Char} {b : UInt8} (hd : d.toNat < 0x80) (hne : c ≠ d)
    (hb : b ∈ String.utf8EncodeChar c) : b ≠ UInt8.ofNat d.toNat := by
  intro heq
  have hvalue : b.toNat = d.toNat := by
    rw [heq, UInt8.toNat_ofNat']
    omega
  by_cases hc : c.toNat < 0x80
  · rw [encode_ascii hc, List.mem_singleton] at hb
    -- Both are single bytes, and these are the characters themselves.
    rw [hb, UInt8.toNat_ofNat'] at hvalue
    exact hne (Char.toNat_inj.mp (by omega))
  · have := le_of_mem_encode (Nat.le_of_not_lt hc) hb
    omega

/-- A text ends with an ASCII character if its bytes do. Nothing has to be decoded
    to see that. -/
theorem getLast?_ofChars {s : List Char} {d : Char} (hd : d.toNat < 0x80) :
    (ofChars s).getLast? = some (UInt8.ofNat d.toNat) ↔ s.getLast? = some d := by
  rcases List.eq_nil_or_concat s with rfl | ⟨init, c, rfl⟩
  · exact ⟨fun h => absurd h (by simp), fun h => absurd h (by simp)⟩
  · rw [List.concat_eq_append, ofChars_append, ofChars_cons, ofChars_nil, List.append_nil,
      List.getLast?_concat]
    by_cases hc : c = d
    · subst hc
      rw [encode_ascii hd, List.getLast?_concat]
      exact iff_of_true rfl rfl
    · refine iff_of_false (fun hlast => ?_) fun heq => hc (Option.some.inj heq)
      -- Another character has bytes of its own at the end, and none of them is the one that is
      -- looked for.
      have hne : String.utf8EncodeChar c ≠ [] := String.utf8EncodeChar_ne_nil
      rw [List.getLast?_append_of_ne_nil _ hne] at hlast
      exact ne_of_mem_encode hd hc (List.mem_of_getLast? hlast) rfl

end Bytes

end EventFlow
