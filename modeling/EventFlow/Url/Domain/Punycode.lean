/-!
# Punycode

A label of a domain name in the 26 letters, the ten digits and the hyphen.

The ASCII characters of a label are written first, in their order, and a hyphen behind them if there
are any. What follows says where the other characters go: they are inserted in ascending order, and
each is written as the number of insertions that could have been made since the one before but were
not. Such a number is written with its least digit first. A digit below a threshold is the last
one; thresholds depend on the place and on a bias that adapts to the numbers written so far, so that
numbers of the same size as those before get short.

Writing and reading count with numbers below `2 ^ 32`; a label that would need more is refused.

## Main definitions

* `Punycode.encode`: a label in writing.
* `Punycode.decode?`: the label that was written.
-/

namespace EventFlow

namespace Punycode

/-! ## Digits -/

/-- The character of a digit. -/
def digitChar (d : Nat) : Char :=
  if d < 26 then Char.ofNat (97 + d) else Char.ofNat (22 + d)

/-- The digit of a character, large letters counting as small ones. -/
def digit? (c : Char) : Option Nat :=
  let n := c.toNat
  if 97 ≤ n && n < 123 then some (n - 97)
  else if 65 ≤ n && n < 91 then some (n - 65)
  else if 48 ≤ n && n < 58 then some (n - 22)
  else none

/-- From which digit on more digits follow, at a place that counts as `k`. -/
def threshold (bias k : Nat) : Nat :=
  if k ≤ bias then 1 else min 26 (k - bias)

theorem threshold_pos (bias k : Nat) : 1 ≤ threshold bias k := by
  unfold threshold
  split <;> omega

/-- Takes factors of 35 out of a number until it is at most 455, adding 36 for each. -/
def reduce (delta k : Nat) : Nat × Nat :=
  if 455 < delta then reduce (delta / 35) (k + 36) else (delta, k)
termination_by delta
decreasing_by exact Nat.div_lt_self (by omega) (by omega)

/-- The bias after a number, with so many characters then there. -/
def adapt (delta count : Nat) (isFirst : Bool) : Nat :=
  let halved := if isFirst then delta / 700 else delta / 2
  let (delta, k) := reduce (halved + halved / count) 0
  k + 36 * delta / (delta + 38)

/-! ## Writing -/

/-- The digits of a number, from the place that counts as `k` on. -/
def digits (bias k n : Nat) : List Char :=
  let t := threshold bias k
  if n < t then [digitChar n]
  else digitChar (t + (n - t) % (36 - t)) :: digits bias (k + 36) ((n - t) / (36 - t))
termination_by n
decreasing_by
  have := threshold_pos bias k
  exact Nat.lt_of_le_of_lt (Nat.div_le_self _ _) (by omega)

/-- How far the writing of a label is. -/
structure Writer where
  /-- The number of insertions since the last one that was made. -/
  delta : Nat
  bias : Nat
  /-- The number of characters that are there. -/
  count : Nat
  /-- What was written. -/
  written : List Char
  deriving DecidableEq, Repr, Inhabited

/-- Writes where a character goes if it is the one whose turn it is, with so many ASCII characters
    in the label. -/
def Writer.pass (ascii : Nat) (turn : Nat) (w : Writer) (c : Char) : Writer :=
  if c.toNat < turn then { w with delta := w.delta + 1 }
  else if c.toNat = turn then
    { delta := 0
      bias := adapt w.delta (w.count + 1) (w.count = ascii)
      count := w.count + 1
      written := w.written ++ digits w.bias 36 w.delta }
  else w

/-- Writes where characters go, those of the list in their turn, after all that are below `low`. -/
def Writer.passAll (label : List Char) (ascii low : Nat) (w : Writer) : List Nat → Writer
  | [] => w
  | turn :: rest =>
    let w := { w with delta := w.delta + (turn - low) * (w.count + 1) }
    let w := label.foldl (Writer.pass ascii turn) w
    Writer.passAll label ascii (turn + 1) { w with delta := w.delta + 1 } rest

/-- Whether a character is ASCII. -/
def isAscii (c : Char) : Bool := c.toNat < 128

/-- The code points of a label that are not ASCII, each once, in ascending order. -/
def turns (label : List Char) : List Nat :=
  let codes := (label.filter (!isAscii ·)).map Char.toNat
  (codes.mergeSort (fun a b => decide (a ≤ b))).eraseDups

/-- A label in writing. -/
def encode (label : List Char) : List Char :=
  let ascii := label.filter isAscii
  -- The count of insertions starts at the first code point beyond ASCII.
  let w := Writer.passAll label ascii.length 128 ⟨0, 72, ascii.length, []⟩ (turns label)
  ascii ++ (if ascii.isEmpty then [] else ['-']) ++ w.written

/-! ## Reading -/

/-- What numbers stay below. -/
def limit : Nat := UInt32.size

/-- Reads a number, from the place that counts as `k` and weighs `weight` on, and adds it to `sum`;
    what follows it comes with the sum. -/
def number? (bias k weight sum : Nat) : List Char → Option (Nat × List Char)
  | [] => none
  | c :: rest =>
    match digit? c with
    | none => none
    | some d =>
      let t := threshold bias k
      if limit ≤ sum + d * weight then none
      else if d < t then some (sum + d * weight, rest)
      else if limit ≤ weight * (36 - t) then none
      else number? bias (k + 36) (weight * (36 - t)) (sum + d * weight) rest

theorem length_lt_of_number? {bias : Nat} :
    ∀ {s : List Char} {k weight sum n : Nat} {rest : List Char},
      number? bias k weight sum s = some (n, rest) → rest.length < s.length
  | [], _, _, _, _, _, h => by simp only [number?, reduceCtorEq] at h
  | c :: s, k, weight, sum, n, rest, h => by
    rw [number?] at h
    split at h
    · exact absurd h (by simp only [reduceCtorEq, not_false_eq_true])
    · simp only at h
      split at h
      · exact absurd h (by simp only [reduceCtorEq, not_false_eq_true])
      · split at h
        · simp only [Option.some.injEq, Prod.mk.injEq] at h
          simp only [← h.2, List.length_cons]
          omega
        · split at h
          · exact absurd h (by simp only [reduceCtorEq, not_false_eq_true])
          · have := length_lt_of_number? h
            simp only [List.length_cons]
            omega

/-- Whether a number is that of a character. -/
def isCode (n : Nat) : Bool := n < 0xd800 || (0xdfff < n && n < 0x110000)

/-- Inserts the characters that numbers tell into a label, the first place to insert at being
    `place` and the lowest character to insert being `code`. -/
def insertAll? (bias code place : Nat) (isFirst : Bool) (label s : List Char) :
    Option (List Char) :=
  match s with
  | [] => some label
  | c :: rest =>
    match _h : number? bias 36 1 place (c :: rest) with
    | none => none
    | some (n, rest) =>
      -- A whole round through the places of the label makes the character one higher.
      let count := label.length + 1
      let code := code + n / count
      if isCode code then
        insertAll? (adapt (n - place) count isFirst) code (n % count + 1) false
          (label.insertIdx (n % count) (Char.ofNat code)) rest
      else none
termination_by s.length
decreasing_by exact length_lt_of_number? _h

/-- The ASCII characters in writing and what follows them: they end at the last hyphen, unless
    nothing stands before that. -/
def split (s : List Char) : List Char × List Char :=
  match s.reverse.dropWhile (· != '-') with
  | [] => ([], s)
  | _ :: reversed =>
    if reversed.isEmpty then ([], s)
    else (reversed.reverse, s.drop (reversed.length + 1))

/-- The label that was written. -/
def decode? (s : List Char) : Option (List Char) :=
  let (ascii, rest) := split s
  if ascii.all isAscii then insertAll? 72 128 0 true ascii rest else none

end Punycode

end EventFlow
