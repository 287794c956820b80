/-!
# Bytes and text

Message contents and request bodies are bytes; identifiers and metadata are text. A text has one
encoding as bytes, and bytes that are no such encoding are refused or, where a backend's answer is
read leniently, mended.

Mending replaces each maximal piece that could not be continued to a character by one replacement
character, so a broken character costs one replacement and not one for each of its bytes.

## Main definitions

* `Bytes.ofText`, `Bytes.text?`: the encoding and its inverse.
* `Bytes.mendedText`: the text of any bytes.
-/

namespace EventFlow

/-- The content of a message, the body of a request, a file. -/
abbrev Bytes := List UInt8

namespace Bytes

/-- The UTF-8 encoding of a text. -/
def ofText (s : String) : Bytes :=
  s.toUTF8.data.toList

/-- The text that the bytes encode, if they are UTF-8. -/
def text? (b : Bytes) : Option String :=
  String.fromUTF8? ⟨b.toArray⟩

/-- The bytes still owed to a character, and what the next one has to lie between. -/
structure Owed where
  /-- How many bytes are missing. -/
  count : Nat
  /-- The least value of the next byte. -/
  low : UInt8
  /-- The greatest value of the next byte. -/
  high : UInt8
  /-- The bits read so far. -/
  bits : Nat

/-- What the first byte of a character says: the character itself, the bytes it owes, or nothing
    if no character starts with it. -/
def lead (b : UInt8) : Option (Char ⊕ Owed) :=
  let n := b.toNat
  if b ≤ 0x7f then some (.inl (Char.ofNat n))
  else if b < 0xc2 then none
  else if b ≤ 0xdf then some (.inr ⟨1, 0x80, 0xbf, n - 0xc0⟩)
  else if b = 0xe0 then some (.inr ⟨2, 0xa0, 0xbf, 0⟩)
  else if b = 0xed then some (.inr ⟨2, 0x80, 0x9f, 0xd⟩)
  else if b ≤ 0xef then some (.inr ⟨2, 0x80, 0xbf, n - 0xe0⟩)
  else if b = 0xf0 then some (.inr ⟨3, 0x90, 0xbf, 0⟩)
  else if b ≤ 0xf3 then some (.inr ⟨3, 0x80, 0xbf, n - 0xf0⟩)
  else if b = 0xf4 then some (.inr ⟨3, 0x80, 0x8f, 4⟩)
  else none

/-- The character that stands for bytes that encode none. -/
def replacement : Char := Char.ofNat 0xfffd

/-- The characters of bytes read from between two characters or, when bytes are owed, from inside
    one. -/
def mend : Option Owed → Bytes → List Char
  | none, [] => []
  | some _, [] => [replacement]
  | none, b :: rest =>
    match lead b with
    | some (.inl c) => c :: mend none rest
    | some (.inr owed) => mend (some owed) rest
    | none => replacement :: mend none rest
  | some owed, b :: rest =>
    if owed.low ≤ b && b ≤ owed.high then
      let bits := owed.bits * 64 + (b.toNat - 0x80)
      if owed.count ≤ 1 then Char.ofNat bits :: mend none rest
      else mend (some ⟨owed.count - 1, 0x80, 0xbf, bits⟩) rest
    else
      match lead b with
      | some (.inl c) => replacement :: c :: mend none rest
      | some (.inr next) => replacement :: mend (some next) rest
      | none => replacement :: replacement :: mend none rest

/-- The text of bytes, every piece that is not UTF-8 replaced. -/
def mendedText (b : Bytes) : String :=
  match text? b with
  | some s => s
  | none => String.ofList (mend none b)

/-- A text is read back from its encoding. -/
@[simp] theorem text?_ofText (s : String) : text? (ofText s) = some s := by
  have h : (⟨(s.toUTF8.data.toList).toArray⟩ : ByteArray) = s.toByteArray := rfl
  simp only [text?, ofText, h, String.fromUTF8?, s.isValidUTF8, dif_pos]
  rfl

/-- Bytes that are the text of a string are its encoding. -/
theorem ofText_of_text? {b : Bytes} {s : String} (h : text? b = some s) : ofText s = b := by
  unfold text? String.fromUTF8? at h
  split at h
  · rw [← Option.some.inj h]
    rfl
  · exact absurd h (by simp only [reduceCtorEq, not_false_eq_true])

theorem ofText_injective {s t : String} (h : ofText s = ofText t) : s = t := by
  have := congrArg text? h
  rwa [text?_ofText, text?_ofText, Option.some.injEq] at this

@[simp] theorem mendedText_ofText (s : String) : mendedText (ofText s) = s := by
  simp only [mendedText, text?_ofText]

end Bytes

end EventFlow
