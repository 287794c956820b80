/-!
# White space

The characters that are trimmed from identifiers, endpoint lists, durations and event ids: those
with the Unicode property `White_Space`.

## Main definitions

* `Text.isBlank`: whether a character is white space.
* `Text.trim`: a text without the white space around it.
-/

namespace EventFlow

namespace Text

/-- Whether a character has the property `White_Space`. -/
def isBlank (c : Char) : Bool :=
  let n := c.toNat
  (0x9 ≤ n && n ≤ 0xd) || n == 0x20 || n == 0x85 || n == 0xa0 || n == 0x1680 ||
    (0x2000 ≤ n && n ≤ 0x200a) || n == 0x2028 || n == 0x2029 || n == 0x202f || n == 0x205f ||
    n == 0x3000

/-- Removes the characters of a class from both ends. -/
def strip (p : Char → Bool) (s : List Char) : List Char :=
  ((s.dropWhile p).reverse.dropWhile p).reverse

/-- Removes the white space at both ends. -/
def trim (s : String) : String :=
  String.ofList (strip isBlank s.toList)

/-- Whether a text has no character that is not white space. -/
def isBlankText (s : String) : Bool :=
  s.toList.all isBlank

/-- The pieces between the occurrences of a character, one more than there are occurrences. -/
def splitAt (sep : Char) : List Char → List (List Char)
  | [] => [[]]
  | c :: rest =>
    if c = sep then [] :: splitAt sep rest
    else
      match splitAt sep rest with
      | [] => [[c]]
      | piece :: pieces => (c :: piece) :: pieces

theorem splitAt_ne_nil (sep : Char) (s : List Char) : splitAt sep s ≠ [] := by
  cases s with
  | nil => exact List.cons_ne_nil _ _
  | cons c rest =>
    simp only [splitAt]
    split
    · exact List.cons_ne_nil _ _
    · split <;> exact List.cons_ne_nil _ _

end Text

end EventFlow
