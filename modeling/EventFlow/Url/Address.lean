import EventFlow.Text.Blank

/-!
# Internet addresses

The numeric hosts of a URL.

A version 4 address is written in one to four numbers, of which the last fills all bytes that are
left. A number is decimal, octal after a zero or hexadecimal after `0x`. A host is taken for such an
address as soon as its last number is one, and then every fault in it is an error.

A version 6 address is eight pieces of 16 bits, a run of zeros possibly left out, the last two
pieces possibly in the form of a version 4 address. It is written with the longest run of zeros left
out, the first of equally long ones.

## Main definitions

* `Ipv4.ofText?`, `Ipv4.text`, `Ipv4.endsInNumber`: version 4.
* `Ipv6.ofText?`, `Ipv6.text`: version 6.
-/

namespace EventFlow

/-- The value of a digit in a base of at most 16. -/
def digitIn? (base : Nat) (c : Char) : Option Nat :=
  let n := c.toNat
  let value :=
    if 0x30 ≤ n && n ≤ 0x39 then n - 0x30
    else if 0x41 ≤ n && n ≤ 0x46 then n - 0x41 + 10
    else if 0x61 ≤ n && n ≤ 0x66 then n - 0x61 + 10
    else base
  if value < base then some value else none

/-- The number that digits in a base denote. -/
def numeralIn? (base : Nat) (s : List Char) : Option Nat :=
  s.foldlM (fun n c => (digitIn? base c).map fun d => base * n + d) 0

namespace Ipv4

/-- A number of an address: decimal, octal or hexadecimal. -/
def number? : List Char → Option Nat
  | [] => none
  | '0' :: 'x' :: rest => numeralIn? 16 rest
  | '0' :: 'X' :: rest => numeralIn? 16 rest
  | '0' :: c :: rest => numeralIn? 8 (c :: rest)
  | s => numeralIn? 10 s

/-- The parts of a host between points, less one empty part at the end. -/
def parts (s : List Char) : List (List Char) :=
  let all := Text.splitAt '.' s
  if all.getLast? = some [] then all.dropLast else all

/-- Whether a host has to be read as an address. -/
def endsInNumber (s : List Char) : Bool :=
  match (parts s).getLast? with
  | some last => (!last.isEmpty && last.all Char.isDigit) || (number? last).isSome
  | none => false

/-- The address that consists of leading bytes and a number for what is left. -/
def assemble? (bytes : List Nat) (last : Nat) : Option Nat :=
  if 3 < bytes.length || bytes.any (255 < ·) || Nat.pow 256 (4 - bytes.length) ≤ last then none
  else some (bytes.foldl (fun n b => 256 * n + b) 0 * Nat.pow 256 (4 - bytes.length) + last)

/-- The address that a host denotes. -/
def ofText? (s : List Char) : Option Nat :=
  match ((parts s).mapM number?).map List.reverse with
  | some (last :: reversed) => assemble? reversed.reverse last
  | _ => none

/-- The four bytes of an address in decimal. -/
def text (address : Nat) : List Char :=
  let byte (i : Nat) := Nat.toDigits 10 (address / Nat.pow 256 i % 256)
  byte 3 ++ '.' :: byte 2 ++ '.' :: byte 1 ++ '.' :: byte 0

end Ipv4

namespace Ipv6

/-- A piece: one to four hexadecimal digits. -/
def piece? (s : List Char) : Option Nat :=
  if s.isEmpty || 4 < s.length then none else numeralIn? 16 s

/-- A byte of an embedded version 4 address: decimal, without leading zeros. -/
def byte? : List Char → Option Nat
  | [] => none
  | ['0'] => some 0
  | '0' :: _ => none
  | s => (numeralIn? 10 s).filter (· < 256)

/-- An embedded version 4 address as two pieces. -/
def embedded? (s : List Char) : Option (List Nat) :=
  match (Text.splitAt '.' s).mapM byte? with
  | some [a, b, c, d] => some [256 * a + b, 256 * c + d]
  | _ => none

/-- Pieces between colons, the last one possibly an embedded address. -/
def pieces? (embed : Bool) : List (List Char) → Option (List Nat)
  | [] => some []
  | [last] => if embed && last.contains '.' then embedded? last else (piece? last).map ([·])
  | part :: rest => do
    let piece ← piece? part
    let pieces ← pieces? embed rest
    return piece :: pieces

/-- The text before and after the first two colons in a row. -/
def splitGap : List Char → Option (List Char × List Char)
  | [] => none
  | ':' :: ':' :: rest => some ([], rest)
  | c :: rest => (splitGap rest).map fun (before, after) => (c :: before, after)

/-- The pieces of one side of a gap, which may have none. -/
def side? (embed : Bool) (s : List Char) : Option (List Nat) :=
  if s.isEmpty then some [] else pieces? embed (Text.splitAt ':' s)

/-- The eight pieces of the address that a text denotes. -/
def ofText? (s : List Char) : Option (List Nat) :=
  match splitGap s with
  | none => (pieces? true (Text.splitAt ':' s)).filter (·.length = 8)
  | some (before, after) => do
    let left ← side? false before
    let right ← side? true after
    if left.length + right.length ≤ 7 then
      return left ++ List.replicate (8 - left.length - right.length) 0 ++ right
    else none

/-- How many zeros each suffix of a list begins with. -/
def zeroRuns : List Nat → List Nat
  | [] => []
  | n :: rest =>
    let runs := zeroRuns rest
    (if n = 0 then runs.headD 0 + 1 else 0) :: runs

/-- Where the first longest run of at least two zeros begins, and how long it is. -/
def longestZeros (pieces : List Nat) : Option (Nat × Nat) :=
  let runs := zeroRuns pieces
  let longest := runs.foldl max 0
  if longest < 2 then none else some (runs.idxOf longest, longest)

/-- Pieces in hexadecimal, between colons. -/
def joined (pieces : List Nat) : List Char :=
  [':'].intercalate (pieces.map (Nat.toDigits 16))

/-- The text of an address. -/
def text (pieces : List Nat) : List Char :=
  match longestZeros pieces with
  | none => joined pieces
  | some (start, length) =>
    joined (pieces.take start) ++ ':' :: ':' :: joined (pieces.drop (start + length))

end Ipv6

end EventFlow
