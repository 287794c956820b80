import EventFlow.Text.Composition.Tables

/-!
# Composed text

The form of a text in which every character that can be composed with the marks behind it is.

The text is taken apart first, so that marks that came composed are among those that follow. Marks
behind the same character are put in the order of their classes; marks of one class keep the order
they have. Then each mark goes into the last character before it that is none, if there is a
composed character for the two and no mark of its class or a higher one stands in between. Syllables
of Hangul are composed by arithmetic and need not be taken apart, since what goes into one comes
behind it.

## Main definitions

* `Text.takeApart`: a text without composed characters.
* `Text.orderMarks`: the order of marks.
* `Text.compose`: the composed form of a text.
-/

namespace EventFlow

namespace Text

/-- What a character stands for, taken apart at most so many times. -/
def takeApartChar : Nat → Char → List Char
  | 0, c => [c]
  | depth + 1, c =>
    (splitPair? c).elim [c] fun (first, second) => takeApartChar depth first ++ [second]

/-- No composed character has to be taken apart more often. -/
def maxDepth : Nat := 4

/-- A text without composed characters. -/
def takeApart (s : List Char) : List Char :=
  s.flatMap (takeApartChar maxDepth)

/-- Puts a mark before the marks of higher classes that come first. -/
def insertMark (mark : Char) : List Char → List Char
  | [] => [mark]
  | c :: rest =>
    if combiningClass c != 0 && combiningClass c < combiningClass mark then
      c :: insertMark mark rest
    else mark :: c :: rest

/-- Puts marks behind the same character in the order of their classes. -/
def orderMarks : List Char → List Char
  | [] => []
  | c :: rest =>
    if combiningClass c = 0 then c :: orderMarks rest else insertMark c (orderMarks rest)

/-- The syllable of Hangul that goes on with a character. -/
def joinSyllable? (first second : Char) : Option Char :=
  let a := first.toNat
  let b := second.toNat
  if 0x1100 ≤ a && a < 0x1113 && 0x1161 ≤ b && b < 0x1176 then
    some (Char.ofNat (0xac00 + ((a - 0x1100) * 21 + (b - 0x1161)) * 28))
  else if 0xac00 ≤ a && a < 0xd7a4 && (a - 0xac00) % 28 = 0 && 0x11a8 ≤ b && b < 0x11c3 then
    some (Char.ofNat (a + (b - 0x11a7)))
  else none

/-- The character that two characters compose. -/
def join? (first second : Char) : Option Char :=
  (joinSyllable? first second).or (joinPair? first second)

/-- Composes a text behind a character that is no mark and the marks that did not go into it, the
    last one of these first. -/
def composeBehind (base : Char) (marks : List Char) : List Char → List Char
  | [] => base :: marks.reverse
  | c :: rest =>
    let isReached := match marks with
      | [] => true
      | mark :: _ => combiningClass mark < combiningClass c
    match if isReached then join? base c else none with
    | some composed => composeBehind composed marks rest
    | none =>
      if combiningClass c = 0 then base :: (marks.reverse ++ composeBehind c [] rest)
      else composeBehind base (c :: marks) rest

/-- Composes a text that is apart and in order. -/
def composeOrdered : List Char → List Char
  | [] => []
  | c :: rest =>
    if combiningClass c = 0 then composeBehind c [] rest else c :: composeOrdered rest

/-- The composed form of a text. -/
def compose (s : List Char) : List Char :=
  composeOrdered (orderMarks (takeApart s))

end Text

end EventFlow
