import EventFlow.Text.Blank

/-!
# Tables of code points

A property of characters as a list of runs.

A run begins at a code point and goes up to the next run, and all of it has one value. Such a table
is written as words: how far a run begins behind the one before it, a capital letter that says what
kind of value it has, and numbers that belong to the value, with commas between them. Numbers are
written in base 36 with small letters, so that the capital letter ends the first of them.

Reading a table is done once; looking up a character halves the table until one run is left.

## Main definitions

* `CodeTable`: a table.
* `CodeTable.ofRows`: the table that rows of words describe.
* `CodeTable.find?`: the run of a character.
-/

namespace EventFlow

/-- A property of characters. -/
structure CodeTable (α : Type) where
  /-- Where each run begins, in ascending order, and its value. -/
  runs : Array (Nat × α)

namespace CodeTable

variable {α : Type}

/-! ## Reading -/

/-- The value of a digit in base 36. -/
def digit (c : Char) : Nat :=
  if c.isDigit then c.toNat - 48 else c.toNat - 87

/-- The value of a number in base 36. -/
def number (s : List Char) : Nat :=
  s.foldl (fun n c => 36 * n + digit c) 0

/-- The numbers of a list with commas. -/
def numbers (s : List Char) : List Nat :=
  if s.isEmpty then [] else (Text.splitAt ',' s).map number

/-- A run as it is written. -/
structure Word where
  /-- How far it begins behind the run before it. -/
  gap : Nat
  /-- What kind of value it has. -/
  kind : Char
  /-- What belongs to the value. -/
  numbers : List Nat
  deriving DecidableEq, Repr, Inhabited

/-- The run that a word describes. -/
def Word.ofText? (s : List Char) : Option Word :=
  match s.dropWhile (!·.isUpper) with
  | [] => none
  | kind :: rest => some ⟨number (s.takeWhile (!·.isUpper)), kind, CodeTable.numbers rest⟩

/-- The words of some rows. -/
def words (rows : List String) : List Word :=
  rows.flatMap fun row => (Text.splitAt ' ' row.toList).filterMap Word.ofText?

/-- Runs with the places where they begin, the first gap counting from `start`. -/
def place (value : Char → List Nat → α) (start : Nat) : List Word → List (Nat × α)
  | [] => []
  | word :: rest =>
    (start + word.gap, value word.kind word.numbers) :: place value (start + word.gap) rest

/-- The table that rows of words describe. -/
def ofRows (value : Char → List Nat → α) (rows : List String) : CodeTable α :=
  ⟨(place value 0 (words rows)).toArray⟩

/-! ## Looking up -/

/-- The index of the last run from `low` on and before `high` that does not begin behind a code
    point, if that of `low` does not. -/
def search (t : CodeTable α) (code low high : Nat) : Nat :=
  if low + 1 < high then
    let middle := (low + high) / 2
    match t.runs[middle]? with
    | some (start, _) =>
      if start ≤ code then search t code middle high else search t code low middle
    | none => low
  else low
termination_by high - low
decreasing_by all_goals omega

/-- Where the run of a character begins, and its value. -/
def find? (t : CodeTable α) (c : Char) : Option (Nat × α) :=
  match t.runs[t.search c.toNat 0 t.runs.size]? with
  | some (start, value) => if start ≤ c.toNat then some (start, value) else none
  | none => none

/-- The value of a character, or another value if it has none. -/
def value (t : CodeTable α) (otherwise : α) (c : Char) : α :=
  ((t.find? c).map (·.2)).getD otherwise

theorem le_of_find? {t : CodeTable α} {c : Char} {start : Nat} {value : α}
    (h : t.find? c = some (start, value)) : start ≤ c.toNat := by
  unfold find? at h
  split at h
  · split at h
    · simp only [Option.some.injEq, Prod.mk.injEq] at h
      omega
    · exact absurd h (by simp only [reduceCtorEq, not_false_eq_true])
  · exact absurd h (by simp only [reduceCtorEq, not_false_eq_true])

end CodeTable

end EventFlow
