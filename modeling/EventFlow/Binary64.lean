/-!
# Sixty-four bit floating point numbers

The numbers that durations, backoff multipliers and message contents are computed with, as exact
values instead of machine words.

Every finite number of the format is a whole multiple of its smallest positive number,
`2 ^ (-1074)`. A finite value is therefore a sign and a natural number of such units, and a sum,
product or quotient is first formed exactly and then rounded once. Nothing here touches the
machine's own floating point operations, so every result can be computed in a proof.

Rounding is to the nearest number that has at most 53 significant bits, a tie going to the even
one; a result of `2 ^ 1024` or more is infinite. There is one NaN, since nothing reads its payload.

## Main definitions

* `Binary64`: a number of the format.
* `Binary64.roundUnits`: the nearest magnitude to an exact quotient of units.
* `Binary64.add`, `Binary64.mul`, `Binary64.div`: the arithmetic, each rounded once.
* `Binary64.toBits`, `Binary64.ofBits`: the interchange encoding.
-/

namespace EventFlow

/-- A quotient rounded to the nearest natural number, a tie going to the even neighbour. -/
def roundTiesEven (num den : Nat) : Nat :=
  let q := num / den
  let r := num % den
  if 2 * r < den then q
  else if den < 2 * r then q + 1
  else q + q % 2

/-- A quotient rounded to the nearest natural number, a tie going up. -/
def roundTiesUp (num den : Nat) : Nat :=
  (2 * num + den) / (2 * den)

/-- A number of the 64-bit binary format. -/
inductive Binary64 where
  /-- Not a number. -/
  | nan
  /-- An infinity, below zero when the flag is set. -/
  | infinite (negative : Bool)
  /-- A magnitude in units of `2 ^ (-1074)`, below zero when the flag is set. -/
  | finite (negative : Bool) (units : Nat)
  deriving DecidableEq, Repr, Inhabited

namespace Binary64

/-- The number of units in one. -/
def unitsPerOne : Nat := Nat.pow 2 1074

/-- The first magnitude, in units, that the format cannot hold. -/
def overflowUnits : Nat := Nat.pow 2 2098

/-- How many low bits of a magnitude do not fit beside its 53 leading ones. -/
def excessBits (units : Nat) : Nat :=
  units.log2 + 1 - 53

/-- The magnitude nearest to the quotient `num / den` of units that has at most 53 significant
    bits. -/
def roundUnits (num den : Nat) : Nat :=
  -- Rounding up to the next power of two is no fault: that number has one significant bit.
  let step := Nat.pow 2 (excessBits (num / den))
  roundTiesEven num (den * step) * step

/-- A magnitude with its sign, infinite when it is too large. -/
def ofUnits (negative : Bool) (units : Nat) : Binary64 :=
  if units < overflowUnits then .finite negative units else .infinite negative

/-- The number nearest to the quotient `num / den`. -/
def ofRatio (negative : Bool) (num den : Nat) : Binary64 :=
  ofUnits negative (roundUnits (num * unitsPerOne) den)

/-- The number nearest to a natural number. -/
def ofNat (n : Nat) : Binary64 :=
  ofRatio false n 1

/-- The number nearest to `digits * 10 ^ exponent`. -/
def ofDecimal (negative : Bool) (digits : Nat) (exponent : Int) : Binary64 :=
  match exponent with
  | .ofNat e => ofRatio negative (digits * Nat.pow 10 e) 1
  | .negSucc e => ofRatio negative digits (Nat.pow 10 (e + 1))

def zero : Binary64 := .finite false 0

def one : Binary64 := .finite false unitsPerOne

def isFinite : Binary64 → Bool
  | .finite _ _ => true
  | _ => false

def isInfinite : Binary64 → Bool
  | .infinite _ => true
  | _ => false

def neg : Binary64 → Binary64
  | .nan => .nan
  | .infinite negative => .infinite (!negative)
  | .finite negative units => .finite (!negative) units

/-- The signed number of units of a finite value. -/
def signedUnits (negative : Bool) (units : Nat) : Int :=
  if negative then -(units : Int) else units

/-- The sum, where opposite values add to the positive zero. -/
def add : Binary64 → Binary64 → Binary64
  | .nan, _ => .nan
  | _, .nan => .nan
  | .infinite a, .infinite b => if a = b then .infinite a else .nan
  | .infinite a, .finite _ _ => .infinite a
  | .finite _ _, .infinite b => .infinite b
  | .finite a m, .finite b n =>
    let sum := signedUnits a m + signedUnits b n
    -- Only two negative zeros add up to a negative zero.
    if sum = 0 then .finite (a && b) 0
    else ofUnits (decide (sum < 0)) (roundUnits sum.natAbs 1)

/-- The product; a zero times an infinity is NaN. -/
def mul : Binary64 → Binary64 → Binary64
  | .nan, _ => .nan
  | _, .nan => .nan
  | .infinite a, .infinite b => .infinite (a ^^ b)
  | .infinite a, .finite b n => if n = 0 then .nan else .infinite (a ^^ b)
  | .finite a m, .infinite b => if m = 0 then .nan else .infinite (a ^^ b)
  | .finite a m, .finite b n => ofUnits (a ^^ b) (roundUnits (m * n) unitsPerOne)

/-- The quotient; zero by zero and infinity by infinity are NaN. -/
def div : Binary64 → Binary64 → Binary64
  | .nan, _ => .nan
  | _, .nan => .nan
  | .infinite _, .infinite _ => .nan
  | .infinite a, .finite b _ => .infinite (a ^^ b)
  | .finite a _, .infinite b => .finite (a ^^ b) 0
  | .finite a m, .finite b n =>
    if n = 0 then (if m = 0 then .nan else .infinite (a ^^ b))
    else ofUnits (a ^^ b) (roundUnits (m * unitsPerOne) n)

/-- Whether the first value is at most the second; false when either is NaN. -/
def le : Binary64 → Binary64 → Bool
  | .nan, _ => false
  | _, .nan => false
  | .infinite true, _ => true
  | _, .infinite false => true
  | .infinite false, _ => false
  | _, .infinite true => false
  | .finite a m, .finite b n => decide (signedUnits a m ≤ signedUnits b n)

/-- The interchange encoding: sign, eleven exponent bits, 52 fraction bits. -/
def toBits : Binary64 → Nat
  | .nan => 0x7ff8_0000_0000_0000
  | .infinite negative => (if negative then 0x8000_0000_0000_0000 else 0) + 0x7ff0_0000_0000_0000
  | .finite negative units =>
    let excess := excessBits units
    (if negative then 0x8000_0000_0000_0000 else 0) + excess * 0x10_0000_0000_0000 +
      units / Nat.pow 2 excess

/-- The number that an interchange encoding stands for. -/
def ofBits (bits : Nat) : Binary64 :=
  let negative := decide (0x8000_0000_0000_0000 ≤ bits % 0x1_0000_0000_0000_0000)
  let exponent := bits / 0x10_0000_0000_0000 % 0x800
  let fraction := bits % 0x10_0000_0000_0000
  if exponent = 2047 then (if fraction = 0 then .infinite negative else .nan)
  else if exponent = 0 then .finite negative fraction
  else .finite negative ((0x10_0000_0000_0000 + fraction) * Nat.pow 2 (exponent - 1))

/-- Below the overflow limit a magnitude is kept as it is. -/
theorem ofUnits_of_lt {negative : Bool} {units : Nat} (h : units < overflowUnits) :
    ofUnits negative units = .finite negative units :=
  if_pos h

/-- A whole quotient is not changed by rounding. -/
theorem roundTiesEven_mul (q den : Nat) (h : 0 < den) : roundTiesEven (q * den) den = q := by
  simp only [roundTiesEven, Nat.mul_div_cancel _ h, Nat.mul_mod_left, Nat.mul_zero, if_pos h]

/-- A rounded quotient is at least the quotient rounded down. -/
theorem div_le_roundTiesEven (num den : Nat) : num / den ≤ roundTiesEven num den := by
  simp only [roundTiesEven]
  split
  · exact Nat.le_refl _
  · split <;> omega

/-- A rounded quotient is at most one more than the quotient rounded down. -/
theorem roundTiesEven_le (num den : Nat) : roundTiesEven num den ≤ num / den + 1 := by
  simp only [roundTiesEven]
  split
  · omega
  · split <;> omega

end Binary64

end EventFlow
