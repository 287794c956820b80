import EventFlow.Span

/-!
# The text of a span

How a span is shown: in the largest of the units seconds, milliseconds, microseconds and
nanoseconds of which it holds one, with as many decimals as it needs and no more.

## Main definitions

* `Span.text`: the text of a span.
-/

namespace EventFlow

namespace Span

/-- A number of decimals as a fraction: the point and the digits up to the last one that is not
    zero, nothing if all are zero. -/
def fractionText (width n : Nat) : List Char :=
  let digits := Nat.toDigits 10 n
  let padded := List.replicate (width - digits.length) '0' ++ digits
  match (padded.reverse.dropWhile (· = '0')).reverse with
  | [] => []
  | kept => '.' :: kept

/-- A span in a unit of `10 ^ width` nanoseconds. -/
def textIn (width : Nat) (suffix : List Char) (s : Span) : String :=
  String.ofList (Nat.toDigits 10 (s.nanos / Nat.pow 10 width) ++
    (if width = 0 then [] else fractionText width (s.nanos % Nat.pow 10 width)) ++ suffix)

/-- The text of a span. -/
def text (s : Span) : String :=
  if 1_000_000_000 ≤ s.nanos then s.textIn 9 ['s']
  else if 1_000_000 ≤ s.nanos then s.textIn 6 ['m', 's']
  else if 1_000 ≤ s.nanos then s.textIn 3 ['µ', 's']
  else s.textIn 0 ['n', 's']

end Span

end EventFlow
