import EventFlow.Text.Unprintable

/-!
# Quoted text

The form in which a message names a value that the user gave: between double quotes, with escapes
for the quote, the backslash, four control characters by letter, and every other character that
cannot be printed by its code point.

## Main definitions

* `Text.escapeChar`: what one character is written as.
* `Text.quoted`: a text between quotes.
-/

namespace EventFlow

namespace Text

/-- The double quote. -/
def quoteMark : Char := '\x22'

/-- The lower-case hexadecimal digits of a number, without leading zeros. -/
def hexDigits (n : Nat) : List Char :=
  Nat.toDigits 16 n

/-- What one character of a quoted text is written as. -/
def escapeChar (c : Char) : List Char :=
  if c = '\x00' then ['\\', '0']
  else if c = '\t' then ['\\', 't']
  else if c = '\n' then ['\\', 'n']
  else if c = '\r' then ['\\', 'r']
  else if c = quoteMark || c = '\\' then ['\\', c]
  else if isUnprintable c then '\\' :: 'u' :: '\x7b' :: (hexDigits c.toNat ++ ['\x7d'])
  else [c]

/-- A text between quotes. -/
def quoted (s : String) : String :=
  String.ofList (quoteMark :: (s.toList.flatMap escapeChar ++ [quoteMark]))

end Text

end EventFlow
