import EventFlow.Binary64

/-!
# The fewest digits that read back

The decimal digits by which a floating point number is written.

A text is good enough for a number when reading it gives that number again. Of all decimals with
that property the one with the fewest digits is written, and of those the one nearest to the
number. For a given count of digits only two decimals can be meant, the neighbours of the number on
the grid of decimals with that many digits, so seventeen grids are tried in turn and the first one
with a hit decides.

## Main definitions

* `Binary64.leadingExponent`: the power of ten of the first digit.
* `Binary64.shortest`: the digits and the power of ten they are counted in.
-/

namespace EventFlow

namespace Binary64

/-- The number of decimal digits of a natural number, one for zero. -/
def decimalLength (n : Nat) : Nat :=
  (Nat.toDigits 10 n).length

/-- The exponent of the largest power of ten that is at most a positive magnitude. The magnitude is
    first scaled by `10 ^ 350`, which makes even the smallest one a long whole number. -/
def leadingExponent (units : Nat) : Int :=
  (decimalLength (units * Nat.pow 10 350 / unitsPerOne) : Int) - 351

/-- Whether `digits * 10 ^ exponent` reads back as the magnitude. -/
def readsBack (units digits : Nat) (exponent : Int) : Bool :=
  ofDecimal false digits exponent == .finite false units

/-- A magnitude on the grid `10 ^ exponent`, as the exact quotient that counts grid steps. -/
def gridQuotient (units : Nat) (exponent : Int) : Nat × Nat :=
  match exponent with
  | .ofNat e => (units, unitsPerOne * Nat.pow 10 e)
  | .negSucc e => (units * Nat.pow 10 (e + 1), unitsPerOne)

/-- The neighbour of a magnitude on the grid `10 ^ exponent` that reads back, the nearer one if
    both do. -/
def gridHit (units : Nat) (exponent : Int) : Option Nat :=
  let (num, den) := gridQuotient units exponent
  let below := num / den
  let nearest := roundTiesEven num den
  let other := if nearest = below then below + 1 else below
  if readsBack units nearest exponent then some nearest
  else if readsBack units other exponent then some other
  else none

/-- Tries the grids of `count`, `count + 1`, … digits, and takes the finest of them if none hits. -/
def shortestFrom (units : Nat) (leading : Int) : (count tries : Nat) → Nat × Int
  | count, 0 =>
    let exponent := leading - count
    let (num, den) := gridQuotient units exponent
    (roundTiesEven num den, exponent)
  | count, tries + 1 =>
    let exponent := leading - count
    match gridHit units exponent with
    | some digits => (digits, exponent)
    | none => shortestFrom units leading (count + 1) tries

/-- The shortest decimal `digits * 10 ^ exponent` that reads back as a positive magnitude. When the
    hit is the power of ten above the magnitude, its last digit is a zero and is dropped. -/
def shortest (units : Nat) : Nat × Int :=
  let (digits, exponent) := shortestFrom units (leadingExponent units) 0 17
  if digits % 10 = 0 then (digits / 10, exponent + 1) else (digits, exponent)

end Binary64

end EventFlow
