import EventFlow.Text.Utf8

/-!
# The console

Where a command prints, which may fail.

A command hands its output to the console piece by piece: a line of its own, the content of a
message, or the demand to keep nothing back. The console takes a piece or refuses it with a reason,
and a command that has a piece refused prints nothing after it. What the console does with the
pieces is up to it; how much of a refused one came through is not known to the command.

Like a transport, a console can be recorded. A program that meets a real one is run over the answers
that are known, up to the first piece that it has none for. That piece is refused in the run, which
ends for that reason, and is then really printed.

## Main definitions

* `Console.Piece`: what is printed at once.
* `Console`: where it is printed.
* `Console.putAll`: printing one piece after the other.
* `Console.paper`: a console that takes everything.
* `Console.recorded`: a console that plays a record.
-/

namespace EventFlow

/-- What is printed at once. -/
inductive Console.Piece where
  /-- Some bytes. -/
  | text (bytes : Bytes)
  /-- That nothing of the pieces before is kept back. -/
  | flush
  deriving DecidableEq, Repr, Inhabited

/-- A console: how it answers a piece, with the reason if it refuses it. -/
structure Console (κ : Type) where
  put : Console.Piece → κ → Except String Unit × κ

namespace Console

variable {κ : Type}

/-- The bytes in a piece. -/
def Piece.bytes : Piece → Bytes
  | text bytes => bytes
  | flush => []

/-- Prints one piece after the other, up to the first that is refused. -/
def putAll (c : Console κ) : List Piece → κ → Except String Unit × κ
  | [], k => (.ok (), k)
  | piece :: pieces, k =>
    match c.put piece k with
    | (.error reason, k) => (.error reason, k)
    | (.ok (), k) => c.putAll pieces k

/-- Pieces are printed if those in front are, and those behind them after that. -/
theorem putAll_append_eq_ok_iff {c : Console κ} {front behind : List Piece} {k k' : κ} :
    c.putAll (front ++ behind) k = (.ok (), k') ↔
      ∃ between, c.putAll front k = (.ok (), between) ∧ c.putAll behind between = (.ok (), k') := by
  induction front generalizing k with
  | nil => simp [putAll]
  | cons piece front ih =>
      rw [List.cons_append, putAll, putAll]
      rcases c.put piece k with ⟨_ | _, k₁⟩
      · simp
      · exact ih

/-! ## Paper -/

/-- A console that takes everything, and has it in its order. -/
def paper : Console Bytes where
  put piece printed := (.ok (), printed ++ piece.bytes)

theorem putAll_paper (pieces : List Piece) (printed : Bytes) :
    paper.putAll pieces printed = (.ok (), printed ++ pieces.flatMap Piece.bytes) := by
  induction pieces generalizing printed with
  | nil => simp [putAll]
  | cons piece pieces ih =>
      rw [putAll, paper]
      exact (ih _).trans (by rw [List.flatMap_cons, List.append_assoc])

/-! ## Records -/

/-- What is known of a console, and what a run finds that it needs to know. -/
structure Recording where
  /-- The answers that a run has not come to yet. -/
  known : List (Except String Unit)
  /-- The first piece that nothing is known of. -/
  wanted : Option Piece

/-- The record at the beginning of a run. -/
def Recording.of (known : List (Except String Unit)) : Recording := ⟨known, none⟩

/-- The console that plays a record, and refuses everything when that ends. -/
def recorded : Console Recording where
  put piece record :=
    match record.wanted, record.known with
    | none, answer :: known => (answer, { record with known })
    | none, [] => (.error "not known", { record with wanted := some piece })
    | some _, _ => (.error "not known", record)

end Console

end EventFlow
