import EventFlow.Binary64.Shortest
import EventFlow.Json.Token

/-!
# JSON numbers

What a number in a JSON text means, and how a number is written.

Whole numbers that fit 64 bits, with or without sign, are kept exactly. Every other number is a
floating point number, computed from the digits that fit an unsigned 64-bit significand and a power
of ten: the significand is rounded, and then scaled by one multiplication or division for each
power of at most `10 ^ 308`, every step rounded by itself. This is quicker than exact reading and
can differ from it in the last place. A number whose magnitude is too large is refused.

A floating point number is written with the fewest digits that read back, positionally when its
first digit counts `10 ^ (-5)` to `10 ^ 15`.

## Main definitions

* `Json.Number`: a number that is in range.
* `Json.Numeral.number?`: the number that a numeral denotes.
* `Json.Number.text`: how a number is written.
-/

namespace EventFlow

namespace Json

/-- A number that is in range. -/
inductive Number where
  /-- A natural number below `2 ^ 64`. -/
  | natural (n : Nat)
  /-- The opposite of a positive number that is at most `2 ^ 63`. -/
  | negative (n : Nat)
  /-- Any other number. -/
  | float (x : Binary64)
  deriving DecidableEq, Repr, Inhabited

/-- Adds digits to a significand as long as it stays below `2 ^ 64`. The second part is the number
    of digits that were left over. -/
def absorb (significand : Nat) : List Nat → Nat × Nat
  | [] => (significand, 0)
  | d :: digits =>
    if 10 * significand + d < UInt64.size then absorb (10 * significand + d) digits
    else (significand, digits.length + 1)

/-- The value of the digits of an exponent, if it is below `2 ^ 31`. -/
def exponentValue? (digits : List Nat) : Option Nat :=
  digits.foldlM (fun n d => if 10 * n + d < 0x8000_0000 then some (10 * n + d) else none) 0

/-- A power of ten as a floating point number. -/
def powerOfTen (n : Nat) : Binary64 := .ofNat (Nat.pow 10 n)

/-- Divides by `10 ^ 308` until what is left of a negative exponent can be divided by at once. -/
def scaleDown (x : Binary64) (exponent : Nat) : Binary64 :=
  if exponent ≤ 308 then x.div (powerOfTen exponent)
  else if x = .zero then x
  else scaleDown (x.div (powerOfTen 308)) (exponent - 308)
termination_by exponent
decreasing_by omega

/-- A significand scaled by a power of ten, if the result is finite. -/
def scale? (significand : Nat) (exponent : Int) : Option Binary64 :=
  let x := Binary64.ofNat significand
  match exponent with
  | .ofNat e =>
    if 308 < e then (if significand = 0 then some x else none)
    else
      let y := x.mul (powerOfTen e)
      if y.isInfinite then none else some y
  | .negSucc e => some (scaleDown x (e + 1))

/-- A magnitude with the sign of its numeral. -/
def withSign (negative : Bool) (x : Binary64) : Binary64 :=
  if negative then x.neg else x

/-- An exponent in the range of a signed 32-bit number. -/
def clampExponent (e : Int) : Int :=
  if e < -0x8000_0000 then -0x8000_0000 else if 0x7fff_ffff < e then 0x7fff_ffff else e

namespace Numeral

/-- A whole number. The negative zero and what does not fit 64 bits are floating point numbers. -/
def integer (negative : Bool) (significand : Nat) : Number :=
  if !negative then .natural significand
  else if significand = 0 || 0x8000_0000_0000_0000 < significand then
    .float (Binary64.ofNat significand).neg
  else .negative significand

/-- The number that a numeral denotes, if it is in range. -/
def number? (n : Numeral) : Option Number :=
  -- Digits of the whole part that do not fit count as factors of ten.
  let (significand, unread) := absorb 0 n.whole
  if unread = 0 && n.fraction.isEmpty && n.exponent.isNone then
    some (integer n.negative significand)
  else
    -- Digits of the fraction that do not fit are dropped.
    let (significand, left) := absorb significand n.fraction
    let exponent : Int := (unread : Int) - ((n.fraction.length - left : Nat) : Int)
    match n.exponent with
    | none => (scale? significand exponent).map fun x => .float (withSign n.negative x)
    | some (below, digits) =>
      match exponentValue? digits with
      | some e =>
        let exponent := clampExponent (if below then exponent - e else exponent + e)
        (scale? significand exponent).map fun x => .float (withSign n.negative x)
      -- An exponent beyond all measure leaves zero or nothing.
      | none =>
        if significand ≠ 0 && !below then none
        else some (.float (withSign n.negative .zero))

end Numeral

/-- The digits of an exponent with its sign. -/
def exponentText (e : Int) : List Char :=
  (if e < 0 then '-' else '+') :: Nat.toDigits 10 e.natAbs

/-- The text of the decimal `digits * 10 ^ exponent`, whose digits do not end in a zero. -/
def decimalText (digits : Nat) (exponent : Int) : List Char :=
  let cs := Nat.toDigits 10 digits
  let leading : Int := exponent + cs.length - 1
  if leading < -5 || 15 < leading then
    match cs with
    | [] => []
    | [c] => c :: 'e' :: exponentText leading
    | c :: rest => c :: '.' :: rest ++ 'e' :: exponentText leading
  else if leading < 0 then
    '0' :: '.' :: List.replicate (-leading - 1).toNat '0' ++ cs
  else
    let whole := leading.toNat + 1
    let padded := cs ++ List.replicate (whole - cs.length) '0'
    let fraction := padded.drop whole
    padded.take whole ++ '.' :: (if fraction.isEmpty then ['0'] else fraction)

/-- The text of a floating point number; one that is not finite is written as null. -/
def floatText : Binary64 → List Char
  | .finite negative units =>
    let magnitude :=
      if units = 0 then ['0', '.', '0']
      else
        let (digits, exponent) := Binary64.shortest units
        decimalText digits exponent
    if negative then '-' :: magnitude else magnitude
  | _ => ['n', 'u', 'l', 'l']

/-- How a number is written. -/
def Number.text : Number → List Char
  | .natural n => Nat.toDigits 10 n
  | .negative n => '-' :: Nat.toDigits 10 n
  | .float x => floatText x

end Json

end EventFlow
