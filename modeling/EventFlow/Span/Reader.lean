import EventFlow.Span
import EventFlow.Text.Blank

/-!
# Reading a span

The form in which a person writes a span: `250ms`, `5s`, `1m30s`.

A written span is a sequence of pairs of a number and a unit with nothing in between, or a bare
`0`; white space around it is ignored. A number is made of ASCII digits and at most one point, and
the pairs are added up in floating point nanoseconds, so fractions work in every unit and a text
with only whole numbers is exact as long as the total is below `2 ^ 53`. A total above `2 ^ 64`
nanoseconds is refused.

## Main definitions

* `Span.readNumber?`: the number of a pair.
* `Span.unitNanos?`: the nanoseconds of a unit.
* `Span.splitPairs?`: the pairs of a text.
* `Span.ofText?`: the span that a text denotes.
-/

namespace EventFlow

namespace Span

/-- Whether a character belongs to the number of a pair. -/
def isNumberChar (c : Char) : Bool :=
  c.isDigit || c == '.'

/-- The natural number that a list of ASCII digits denotes. -/
def digitsValue (s : List Char) : Nat :=
  s.foldl (fun n c => 10 * n + (c.toNat - '0'.toNat)) 0

/-- The number of a pair: digits with at most one point, at least one digit. -/
def readNumber? (s : List Char) : Option Binary64 :=
  let whole := s.takeWhile Char.isDigit
  let fraction := (s.dropWhile Char.isDigit).drop 1
  if fraction.all Char.isDigit && (whole ++ fraction) != [] then
    some (Binary64.ofDecimal false (digitsValue (whole ++ fraction)) (-(fraction.length : Int)))
  else none

/-- The nanoseconds of a unit. The microsecond is also written with the micro sign. -/
def unitNanos? (unit : List Char) : Option Nat :=
  match unit with
  | ['n', 's'] => some 1
  | ['u', 's'] => some 1_000
  | ['µ', 's'] => some 1_000
  | ['m', 's'] => some 1_000_000
  | ['s'] => some 1_000_000_000
  | ['m'] => some 60_000_000_000
  | ['h'] => some 3_600_000_000_000
  | _ => none

/-- A text as alternating numbers and units, the longest runs of number characters and of other
    characters; refused if it does not begin with a number or end with a unit. -/
def splitPairs? : List Char → Option (List (List Char × List Char))
  | [] => some []
  | c :: rest =>
    if isNumberChar c then
      let number := c :: rest.takeWhile isNumberChar
      match _h : rest.dropWhile isNumberChar with
      | [] => none
      | d :: more =>
        let unit := d :: more.takeWhile (!isNumberChar ·)
        (splitPairs? (more.dropWhile (!isNumberChar ·))).map ((number, unit) :: ·)
    else none
termination_by s => s.length
decreasing_by
  have hmore := (List.dropWhile_sublist (l := more) fun c => !isNumberChar c).length_le
  have hrest := (List.dropWhile_sublist (l := rest) isNumberChar).length_le
  rw [‹rest.dropWhile isNumberChar = d :: more›, List.length_cons] at hrest
  rw [List.length_cons]
  omega

/-- Adds the nanoseconds of one pair to a total. -/
def addPair (total : Binary64) (pair : List Char × List Char) : Option Binary64 :=
  match readNumber? pair.1, unitNanos? pair.2 with
  | some number, some nanos => some (total.add (number.mul (Binary64.ofNat nanos)))
  | _, _ => none

/-- A floating point number of nanoseconds as a span, rounded to the nearest one, a half going
    up. -/
def ofTotal? : Binary64 → Option Span
  | .finite _ units =>
    let n := roundTiesUp units Binary64.unitsPerOne
    if n ≤ UInt64.size then some (ofNanos (Nat.min n (UInt64.size - 1))) else none
  | _ => none

/-- The span that a text denotes. -/
def ofText? (text : String) : Option Span :=
  match Text.strip Text.isBlank text.toList with
  | [] => none
  | ['0'] => some zero
  | s => do
    let pairs ← splitPairs? s
    let total ← pairs.foldlM addPair Binary64.zero
    ofTotal? total

end Span

end EventFlow
