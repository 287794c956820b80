import EventFlow.Toml
import EventFlow.Toml.Text

/-!
# TOML numbers and moments

Numbers, dates and times of a configuration file.

A date begins with four digits and a hyphen, a time with two digits of an hour and a colon;
whatever begins so has to go on so. A number may have underscores between its digits but not a zero
in front of them. A whole number is decimal, hexadecimal, octal or binary and fits 64 bits with
sign; a floating point number has a fraction, an exponent or both, and is exact before it is
rounded.

## Main definitions

* `Toml.readMoment`: a date, a time or both.
* `Toml.readNumber`: a number.
-/

namespace EventFlow

namespace Toml

/-- Two digits whose value lies in a range. -/
def twoDigits? (low high : Nat) : List Char → Option (Nat × List Char)
  | a :: b :: rest =>
    match hexValue? a, hexValue? b with
    | some m, some n =>
      if m < 10 && n < 10 && low ≤ 10 * m + n && 10 * m + n ≤ high then some (10 * m + n, rest)
      else none
    | _, _ => none
  | _ => none

/-- What follows a character. -/
def expect? (c : Char) : List Char → Option (List Char)
  | d :: rest => if c = d then some rest else none
  | [] => none

/-- The number of days of a month. -/
def daysIn (year month : Nat) : Nat :=
  if month = 2 then
    if year % 4 = 0 && (year % 100 != 0 || year % 400 = 0) then 29 else 28
  else if month = 4 || month = 6 || month = 9 || month = 11 then 30
  else 31

/-- How a reader fared that may find something else than it looks for. -/
inductive Attempt where
  /-- There is something else. -/
  | other
  /-- There is what it looks for, but not well formed. -/
  | malformed
  /-- There is what it looks for, and then this. -/
  | found (rest : List Char)
  deriving Repr, Inhabited

/-- What follows the month and day of a date. -/
def afterYear? (year : Nat) (s : List Char) : Option (List Char) := do
  let (month, s) ← twoDigits? 1 12 s
  let s ← expect? '-' s
  let (day, s) ← twoDigits? 1 31 s
  if day ≤ daysIn year month then return s else none

/-- A date. -/
def readDate (s : List Char) : Attempt :=
  match s with
  | a :: b :: c :: d :: '-' :: rest =>
    if [a, b, c, d].all Char.isDigit then
      let year := [a, b, c, d].foldl (fun n c => 10 * n + (c.toNat - 0x30)) 0
      match afterYear? year rest with
      | some rest => .found rest
      | none => .malformed
    else .other
  | _ => .other

/-- What follows the fraction of a second, if there is one. -/
def skipFraction (s : List Char) : List Char :=
  match s with
  | '.' :: d :: rest => if d.isDigit then rest.dropWhile Char.isDigit else s
  | _ => s

/-- What follows the minutes and seconds of a time. -/
def afterHour? (s : List Char) : Option (List Char) := do
  let (_, s) ← twoDigits? 0 59 s
  let s ← expect? ':' s
  let (_, s) ← twoDigits? 0 60 s
  return skipFraction s

/-- A time. -/
def readTime (s : List Char) : Attempt :=
  match twoDigits? 0 23 s with
  | some (_, ':' :: rest) =>
    match afterHour? rest with
    | some rest => .found rest
    | none => .malformed
  | _ => .other

/-- What follows the distance of a clock from the universal one. -/
def afterOffsetSign? (s : List Char) : Option (List Char) := do
  let (_, s) ← twoDigits? 0 23 s
  let s ← expect? ':' s
  let (_, s) ← twoDigits? 0 59 s
  return s

/-- What follows a time, which may name the clock it was read from. -/
def readOffset (s : List Char) : Attempt :=
  match s with
  | c :: rest =>
    if c = 'Z' || c = 'z' then .found rest
    else if c = '+' || c = '-' then
      match afterOffsetSign? rest with
      | some rest => .found rest
      | none => .malformed
    else .found s
  | [] => .found []

/-- What follows a date, which may go on with a time. -/
def readTimeOfDay (s : List Char) : Attempt :=
  match s with
  | c :: rest =>
    if c = 'T' || c = 't' || c = ' ' then
      match readTime rest with
      | .found rest => readOffset rest
      | .malformed => .malformed
      | .other => .found s
    else .found s
  | [] => .found []

/-- A date, a time or both. -/
def readMoment (s : List Char) : Attempt :=
  match readDate s with
  | .found rest => readTimeOfDay rest
  | .malformed => .malformed
  | .other => readTime s

/-- What follows the first digit of a run: digits, each possibly after an underscore. -/
def moreDigits (p : Char → Bool) : List Char → Read (List Char)
  | [] => some ([], [])
  | '_' :: c :: rest => if p c then push c (moreDigits p rest) else none
  | c :: rest =>
    if p c then push c (moreDigits p rest) else if c = '_' then none else some ([], c :: rest)

/-- A run of digits. -/
def readDigits (p : Char → Bool) : List Char → Read (List Char)
  | [] => none
  | c :: rest => if p c then push c (moreDigits p rest) else none

/-- The digits of a decimal number, which are a zero or do not begin with one. -/
def readDecimal : List Char → Read (List Char)
  | '0' :: rest => some (['0'], rest)
  | s => readDigits Char.isDigit s

/-- The sign in front of a number. -/
def readSign : List Char → Bool × List Char
  | '+' :: rest => (false, rest)
  | '-' :: rest => (true, rest)
  | s => (false, s)

/-- The value of digits in a base. -/
def valueIn (base : Nat) (digits : List Char) : Nat :=
  digits.foldl (fun n c => base * n + (hexValue? c).getD 0) 0

/-- A whole number that fits 64 bits with sign. -/
def integer? (negative : Bool) (magnitude : Nat) : Option Toml :=
  if negative then
    if magnitude ≤ 0x8000_0000_0000_0000 then some (.integer (-(magnitude : Int))) else none
  else if magnitude < 0x8000_0000_0000_0000 then some (.integer magnitude) else none

/-- A whole number in another base, from after the letter of the base. -/
def readInBase (base : Nat) (s : List Char) : Option (Toml × List Char) := do
  let (digits, rest) ← readDigits (fun c => (hexValue? c).any (· < base)) s
  let n ← integer? false (valueIn base digits)
  return (n, rest)

/-- An exponent, if there is one: its value, and what follows. -/
def readExponent (s : List Char) : Option (Option Int × List Char) :=
  match s with
  | c :: rest =>
    if c = 'e' || c = 'E' then do
      let (negative, rest) := readSign rest
      let (digits, rest) ← readDigits Char.isDigit rest
      let magnitude : Int := valueIn 10 digits
      return (some (if negative then -magnitude else magnitude), rest)
    else some (none, s)
  | [] => some (none, [])

/-- The decimal with more digits than any number of the format can tell apart counts as too large or
    as zero, so exponents beyond this are cut. -/
def cutExponent (digits : Nat) (e : Int) : Int :=
  max (-(digits : Int) - 400) (min 400 e)

/-- A floating point number, unless it is too large and not negative. -/
def float? (negative : Bool) (whole fraction : List Char) (exponent : Int) : Option Toml :=
  let digits := whole ++ fraction
  let e := cutExponent digits.length (exponent - fraction.length)
  match Binary64.ofDecimal negative (valueIn 10 digits) e with
  | .infinite false => none
  | x => some (.float x)

/-- What a decimal number is, once its sign and its first digits are known. -/
def readAfterWhole (negative : Bool) (whole : List Char) (s : List Char) :
    Option (Toml × List Char) :=
  match s with
  | '.' :: rest => do
    let (fraction, rest) ← readDigits Char.isDigit rest
    let (exponent, rest) ← readExponent rest
    let x ← float? negative whole fraction (exponent.getD 0)
    return (x, rest)
  | _ => do
    let (exponent, rest) ← readExponent s
    let x ← match exponent with
      | some e => float? negative whole [] e
      | none => integer? negative (valueIn 10 whole)
    return (x, rest)

/-- A number without a name. -/
def readPlainNumber (negative : Bool) (s : List Char) : Option (Toml × List Char) := do
  let (whole, rest) ← readDecimal s
  readAfterWhole negative whole rest

/-- A number that is infinite or none, written by name. -/
def readNamedNumber (negative : Bool) : List Char → Read Toml
  | 'i' :: 'n' :: 'f' :: rest => some (.float (.infinite negative), rest)
  | 'n' :: 'a' :: 'n' :: rest => some (.float .nan, rest)
  | _ => none

/-- A number. -/
def readNumber (s : List Char) : Option (Toml × List Char) :=
  match s with
  | '0' :: 'x' :: rest => readInBase 16 rest
  | '0' :: 'o' :: rest => readInBase 8 rest
  | '0' :: 'b' :: rest => readInBase 2 rest
  | _ =>
    let (negative, rest) := readSign s
    match rest with
    | 'i' :: _ => readNamedNumber negative rest
    | 'n' :: _ => readNamedNumber negative rest
    | _ => readPlainNumber negative rest

/-- A moment or a number. -/
def readMomentOrNumber (s : List Char) : Option (Toml × List Char) :=
  match readMoment s with
  | .found rest => some (.moment, rest)
  | .malformed => none
  | .other => readNumber s

end Toml

end EventFlow
