import EventFlow.Session.Http

/-!
# HTTP messages

Requests and answers as bytes on a connection that serves one request and is closed then.

An answer is a status line, header lines, an empty line and a body. Where the body ends is told by
its chunks, by its announced length, or else by the end of the connection. An answer that ends too
early is a partial one. Interim answers, whose statuses begin with 1, come before the real one and
have no body, and neither does one with status 204 or 304.

## Main definitions

* `Http.Request.toBytes`: a request.
* `Http.Response.ofBytes`: the answer in all bytes that a connection brought.
-/

namespace EventFlow

namespace Http

/-! ## Requests -/

/-- What a request asks for on its host: the path, and the query if there is one. -/
def Request.target (r : Request) : List Char :=
  r.url.path.text ++ Url.partText '?' r.url.query

/-- The host and port of a request. -/
def Request.host (r : Request) : List Char :=
  match r.url.authority with
  | some a => Authority.text { a with username := [], password := [] }
  | none => []

/-- A line and its end. -/
def wireLine (s : String) : Bytes := Bytes.ofText (s ++ "\r\n")

/-- A request. -/
def Request.toBytes (r : Request) : Bytes :=
  wireLine (r.method.text ++ " " ++ String.ofList r.target ++ " HTTP/1.1") ++
  wireLine ("host: " ++ String.ofList r.host) ++
  r.headers.flatMap (fun (name, value) => wireLine (name ++ ": " ++ value)) ++
  wireLine "connection: close" ++
  wireLine "" ++
  r.body.getD []

/-! ## Answers -/

/-- The first line, without its end, and what follows it. -/
def line? : Bytes → Option (Bytes × Bytes)
  | [] => none
  | 0x0a :: rest => some ([], rest)
  | 0x0d :: 0x0a :: rest => some ([], rest)
  | b :: rest => (line? rest).map fun (line, rest) => (b :: line, rest)

theorem length_lt_of_line? {s line rest : Bytes} (h : line? s = some (line, rest)) :
    rest.length < s.length := by
  fun_induction line? s generalizing line rest with
  | case1 => exact absurd h (by simp only [reduceCtorEq, not_false_eq_true])
  | case2 tail =>
    simp only [Option.some.injEq, Prod.mk.injEq] at h
    simp only [← h.2, List.length_cons]
    omega
  | case3 tail =>
    simp only [Option.some.injEq, Prod.mk.injEq] at h
    simp only [← h.2, List.length_cons]
    omega
  | case4 b tail _ _ ih =>
    simp only [Option.map_eq_some_iff, Prod.mk.injEq, Prod.exists] at h
    obtain ⟨_, _, hl, -, rfl⟩ := h
    have := ih hl
    simp only [List.length_cons]
    omega

/-- The lines up to the first empty one, and what follows that. -/
def head? (s : Bytes) : Option (List Bytes × Bytes) :=
  match _h : line? s with
  | none => none
  | some (line, rest) =>
    if line.isEmpty then some ([], rest)
    else (head? rest).map fun (lines, rest) => (line :: lines, rest)
termination_by s.length
decreasing_by exact length_lt_of_line? _h

/-- The status that a status line tells. -/
def status? (line : Bytes) : Option Nat :=
  match Text.splitAt ' ' (Bytes.mendedText line).toList with
  | version :: code :: _ =>
    if "HTTP/".toList.isPrefixOf version && code.length == 3 && code.all Char.isDigit then
      some (Span.digitsValue code)
    else none
  | _ => none

/-- A header line as a name in small letters and a value. -/
def header (line : Bytes) : String × String :=
  let s := (Bytes.mendedText line).toList
  (String.ofList ((s.takeWhile (· != ':')).map Char.toLower),
    Text.trim (String.ofList ((s.dropWhile (· != ':')).drop 1)))

/-- The value of a hexadecimal digit. -/
def hexDigit? (b : UInt8) : Option Nat :=
  let n := b.toNat
  if 48 ≤ n && n < 58 then some (n - 48)
  else if 65 ≤ n && n < 71 then some (n - 55)
  else if 97 ≤ n && n < 103 then some (n - 87)
  else none

/-- The size that the line before a chunk tells. -/
def chunkSize? (line : Bytes) : Option Nat :=
  match line.takeWhile fun b => (hexDigit? b).isSome with
  | [] => none
  | digits => some (digits.foldl (fun n b => 16 * n + (hexDigit? b).getD 0) 0)

/-- The body in chunks, unless it ends too early. -/
def chunks? (s : Bytes) : Option Bytes :=
  match _h : line? s with
  | none => none
  | some (line, rest) =>
    match chunkSize? line with
    | none => none
    | some 0 => some []
    | some (n + 1) =>
      if rest.length < n + 1 then none
      else
        match (rest.drop (n + 1)) with
        | 0x0d :: 0x0a :: behind =>
          if behind.length < s.length then
            (chunks? behind).map fun body => rest.take (n + 1) ++ body
          else none
        | _ => none
termination_by s.length

/-- How the end of a body is told. -/
inductive Framing where
  /-- By its chunks. -/
  | chunked
  /-- By its length. -/
  | sized (n : Nat)
  /-- By the end of the connection. -/
  | untilClosed
  /-- There is none. -/
  | absent
  deriving DecidableEq, Repr, Inhabited

/-- How headers tell the end of a body. -/
def Framing.of (status : Nat) (headers : List (String × String)) : Framing :=
  if status == 204 || status == 304 then .absent
  else if (headers.lookup "transfer-encoding").map String.toLower = some "chunked" then .chunked
  else
    match (headers.lookup "content-length").map String.toList with
    | some s => if s.all Char.isDigit then .sized (Span.digitsValue s) else .untilClosed
    | none => .untilClosed

/-- The body that follows the headers. -/
def Framing.body (framing : Framing) (s : Bytes) : Except TransferFailure Bytes :=
  match framing with
  | .chunked => (chunks? s).elim (.error .partialAnswer) .ok
  | .sized n => if s.length < n then .error .partialAnswer else .ok (s.take n)
  | .untilClosed => .ok s
  | .absent => .ok []

theorem length_lt_of_head? {s : Bytes} {lines : List Bytes} {rest : Bytes}
    (h : head? s = some (lines, rest)) : rest.length < s.length := by
  fun_induction head? s generalizing lines rest with
  | case1 => exact absurd h (by simp only [reduceCtorEq, not_false_eq_true])
  | case2 s line tail hl =>
    simp only [Option.some.injEq, Prod.mk.injEq] at h
    exact h.2 ▸ length_lt_of_line? hl
  | case3 s line tail hl _ ih =>
    simp only [Option.map_eq_some_iff, Prod.mk.injEq, Prod.exists] at h
    obtain ⟨_, _, hh, -, rfl⟩ := h
    exact Nat.lt_trans (ih hh) (length_lt_of_line? hl)

/-- The answer in all bytes that a connection brought. -/
def Response.ofBytes (s : Bytes) : Except TransferFailure Response :=
  match _h : head? s with
  | none => .error (if s.isEmpty then .noAnswer else .partialAnswer)
  | some ([], _) => .error .noAnswer
  | some (first :: lines, rest) =>
    match status? first with
    | none => .error .noAnswer
    | some status =>
      if status < 200 then Response.ofBytes rest
      else
        match (Framing.of status (lines.map header)).body rest with
        | .ok body => .ok ⟨status, body⟩
        | .error failure => .error failure
termination_by s.length
decreasing_by exact length_lt_of_head? _h

end Http

end EventFlow
