import EventFlow.Text.Utf8

/-!
# Percent encoding

How characters that have no place in some part of a URL are written there, and how they are read
back.

A character is written as its UTF-8 bytes, each as a percent sign and two upper-case hexadecimal
digits. Which ASCII characters need this depends on the part; controls and characters beyond ASCII
need it everywhere.

## Main definitions

* `Percent.encode`: a text with a class of characters escaped.
* `Percent.decode`: the bytes of a text with escapes.
* `Percent.inPath`, `Percent.inSegment`, …: the classes of the parts of a URL.
-/

namespace EventFlow

namespace Percent

/-- A hexadecimal digit, in upper case. -/
def hexDigit (n : Nat) : Char :=
  if n < 10 then Char.ofNat (0x30 + n) else Char.ofNat (0x41 + (n - 10))

/-- A byte as an escape. -/
def escapeByte (b : UInt8) : List Char :=
  ['%', hexDigit (b.toNat / 16), hexDigit (b.toNat % 16)]

/-- A character as escapes. -/
def escapeChar (c : Char) : List Char :=
  (String.utf8EncodeChar c).flatMap escapeByte

/-- A text with the characters of a class escaped. -/
def encode (p : Char → Bool) (s : List Char) : List Char :=
  s.flatMap fun c => if p c then escapeChar c else [c]

/-- The value of a hexadecimal digit. -/
def hexValue? (c : Char) : Option Nat :=
  let n := c.toNat
  if 0x30 ≤ n && n ≤ 0x39 then some (n - 0x30)
  else if 0x41 ≤ n && n ≤ 0x46 then some (n - 0x41 + 10)
  else if 0x61 ≤ n && n ≤ 0x66 then some (n - 0x61 + 10)
  else none

/-- The bytes of a text with escapes. A percent sign that begins no escape stands for itself. -/
def decode : List Char → Bytes
  | [] => []
  | [c] => String.utf8EncodeChar c
  | [c, d] => String.utf8EncodeChar c ++ String.utf8EncodeChar d
  | c :: d :: e :: rest =>
    if c = '%' then
      match hexValue? d, hexValue? e with
      | some m, some n => UInt8.ofNat (16 * m + n) :: decode rest
      | _, _ => String.utf8EncodeChar c ++ decode (d :: e :: rest)
    else String.utf8EncodeChar c ++ decode (d :: e :: rest)
termination_by s => s.length

/-- Controls and characters beyond ASCII. -/
def always (c : Char) : Bool :=
  c.toNat < 0x20 || 0x7e < c.toNat

/-- What is escaped in a fragment. -/
def inFragment (c : Char) : Bool :=
  always c || c == ' ' || c == '\x22' || c == '<' || c == '>' || c == '\x60'

/-- What is escaped in a query. -/
def inQuery (c : Char) : Bool :=
  always c || c == ' ' || c == '\x22' || c == '#' || c == '<' || c == '>'

/-- What is escaped in the query of a URL with a special scheme. -/
def inSpecialQuery (c : Char) : Bool :=
  inQuery c || c == '\x27'

/-- What is escaped in a path. -/
def inPath (c : Char) : Bool :=
  inFragment c || c == '#' || c == '?' || c == '\x7b' || c == '\x7d'

/-- What is escaped in a user name or password. -/
def inUserInfo (c : Char) : Bool :=
  inPath c || c == '/' || c == ':' || c == ';' || c == '=' || c == '@' || c == '[' || c == '\\' ||
    c == ']' || c == '^' || c == '|'

/-- What is escaped in a segment that is added to a path. -/
def inSegment (c : Char) : Bool :=
  inPath c || c == '/' || c == '%'

/-- What is escaped in a segment that is added to a path under a special scheme. -/
def inSpecialSegment (c : Char) : Bool :=
  inSegment c || c == '\\'

@[simp] theorem encode_nil (p : Char → Bool) : encode p [] = [] := rfl

theorem encode_append (p : Char → Bool) (s t : List Char) :
    encode p (s ++ t) = encode p s ++ encode p t :=
  List.flatMap_append

end Percent

end EventFlow
