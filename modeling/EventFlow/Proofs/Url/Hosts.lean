import EventFlow.Proofs.Url.Commas
import EventFlow.Proofs.Url.Remainders

/-!
# Hosts with Remainders

What a remainder does to the part of a URL that its host is read from.

Where nothing follows the host, a remainder becomes part of it, and the host is
another one. A name has more commas with the remainder than without, whether it is
looked up as it is or was mapped and composed (`count_lt_of_domain?`), and a name
with commas is no address. A host in brackets is not read at all with something
behind the last one. Where a port or a path follows the host, the remainder is behind
them, and behind a port alone it makes the port unreadable. So of any two results that
are read, either the hosts differ or what follows them differs by the remainder
(`readHostAndPort_append`), and then the URLs differ.

The host of a file is dropped if it is the local one or if its path begins with a
drive. Neither is left with a remainder behind it, so what is asked for here is that
the file has a host (`readFile_append`).

## Main definitions

* `Url.hostEnd`: Where the host in front of a text ends.
* `Url.ReadsPort`: What is read behind a host.
* `Url.FileHost`: A host in front of a file's path.

## Theorems

* `readHost_append`: A host with a remainder is another host.
* `readHostAndPort_append`: Host and port in front of a remainder.
* `readAfterSlashes_append`, `readFile_append`: URLs with a remainder are other URLs.
-/

namespace EventFlow

/-! ## Addresses -/

/-- A comma is no digit in any base, so a text with one is no numeral. -/
theorem numeralIn?_comma (base : Nat) {digits : List Char} (h : ',' ∈ digits) :
    numeralIn? base digits = none := by
  have hcomma : digitIn? base ',' = none := if_neg (Nat.lt_irrefl base)
  rcases List.append_of_mem h with ⟨before, after, rfl⟩
  rw [numeralIn?, List.foldlM_append]
  refine Option.bind_eq_none_iff.mpr fun n _ => ?_
  rw [List.foldlM_cons, hcomma]
  rfl

namespace Ipv4

/-- So it is no part of an address either, in any of the notations. -/
theorem number?_comma {part : List Char} (h : ',' ∈ part) : number? part = none := by
  unfold number?
  split
  · exact absurd h List.not_mem_nil
  · exact numeralIn?_comma 16 (by simpa using h)
  · exact numeralIn?_comma 16 (by simpa using h)
  · exact numeralIn?_comma 8 (by simpa using h)
  · exact numeralIn?_comma 10 h

/-- A comma in a name is in one of the parts between its points. A part that is left
    out at the end is empty, and so it is not that one. -/
theorem exists_part_of_comma {name : List Char} (h : ',' ∈ name) :
    ∃ part ∈ parts name, ',' ∈ part := by
  rcases Text.exists_mem_splitAt (show ',' ≠ '.' by decide) h with ⟨part, hpart, hcomma⟩
  refine ⟨part, ?_, hcomma⟩
  unfold parts
  dsimp only
  split
  · rename_i hlast
    rw [← List.dropLast_append_getLast? [] hlast, List.mem_append, List.mem_singleton] at hpart
    exact hpart.resolve_right (List.ne_nil_of_mem hcomma)
  · exact hpart

/-- A name with a comma is no address. -/
theorem ofText?_comma {name : List Char} (h : ',' ∈ name) : ofText? name = none := by
  rcases exists_part_of_comma h with ⟨part, hpart, hcomma⟩
  have hnone : (parts name).mapM number? = none := by
    rcases List.append_of_mem hpart with ⟨before, after, hparts⟩
    rw [hparts, List.mapM_append, List.mapM_cons, number?_comma hcomma]
    cases before.mapM number? <;> rfl
  rw [ofText?, hnone]
  rfl

end Ipv4

namespace Url

variable {s t : List Char} {kind : SchemeKind}

/-! ## Hosts -/

/-- No character of a remainder is a hexadecimal digit. -/
theorem Remainder.hexValue?_eq (h : Remainder t) {c : Char} (hc : c ∈ t) :
    Percent.hexValue? c = none := by
  unfold Percent.hexValue?
  rcases (h.loose c hc).range with hle | rfl | hge
  · simp only [Bool.and_eq_true, decide_eq_true_eq]
    rw [if_neg (by omega), if_neg (by omega), if_neg (by omega)]
  · rfl
  · simp only [Bool.and_eq_true, decide_eq_true_eq]
    rw [if_neg (by omega), if_neg (by omega), if_neg (by omega)]

/-- A remainder stands for itself behind any escapes. -/
theorem decode_append (h : Remainder t) (s : List Char) :
    Percent.decode (s ++ t) = Percent.decode s ++ Bytes.ofChars t :=
  Percent.decode_append (h.not_mem (by decide) (by decide) (by decide))
    (fun _ hc => h.hexValue?_eq (List.mem_of_head? hc)) s

/-- The name that a host is read as, with its escapes resolved. -/
def domain? (s : List Char) : Option (List Char) :=
  ((Bytes.text? (Percent.decode s)).map String.toList).bind Domain.toAscii?

/-- A remainder behind a host gives the name more commas. -/
theorem count_lt_of_domain? (h : Remainder t) {name name' : List Char} (hs : domain? s = some name)
    (hst : domain? (s ++ t) = some name') : name.count ',' < name'.count ',' := by
  rcases Option.bind_eq_some_iff.mp hs with ⟨chars, hchars, hname⟩
  rcases Option.map_eq_some_iff.mp hchars with ⟨text, htext, rfl⟩
  rcases Option.bind_eq_some_iff.mp hst with ⟨chars', hchars', hname'⟩
  rcases Option.map_eq_some_iff.mp hchars' with ⟨text', htext', rfl⟩
  -- Resolving escapes leaves the remainder where it is, so the second name is the first one with
  -- it.
  have happend : text'.toList = text.toList ++ t := by
    refine Bytes.ofChars_injective ?_
    rw [Bytes.ofChars_append, ← Bytes.ofText_eq, ← Bytes.ofText_eq, Bytes.ofText_of_text? htext,
      Bytes.ofText_of_text? htext', decode_append h]
  rw [happend] at hname'
  exact Domain.count_lt_of_toAscii? h.comma (h.not_mem (by decide) (by decide) (by decide))
    hname hname'

/-- A host without brackets is a name, or the address that a name stands for. -/
theorem exists_domain?_of_readHost (hbracket : s.head? ≠ some '[') {host : Host}
    (h : readHost s = .ok host) : ∃ name, domain? s = some name ∧
      (host = .name name ∨ ∃ address, Ipv4.ofText? name = some address ∧ host = .ipv4 address) := by
  unfold readHost at h
  split at h
  · exact absurd rfl hbracket
  split at h
  · cases h
  · cases h
  · rename_i name _ hname
    refine ⟨name, hname, ?_⟩
    split at h
    · split at h
      · rename_i address haddress
        exact .inr ⟨address, haddress, (Except.ok.inj h).symm⟩
      · cases h
    · exact .inl (Except.ok.inj h).symm

/-- No host is left open that begins with a bracket. -/
theorem bracket_of_readHost {host : Host} (h : readHost s = .ok host)
    (hbracket : s.head? = some '[') : s.getLast? = some ']' := by
  unfold readHost at h
  split at h
  · rename_i rest
    split at h
    · rename_i hlast
      rw [List.getLast?_cons, hlast]
      rfl
    · cases h
  · rename_i hopen
    rcases List.head?_eq_some_iff.mp hbracket with ⟨rest, rfl⟩
    exact absurd rfl (hopen rest)

/-- A host that a remainder was put behind is another host. -/
theorem readHost_append (h : Remainder t) {host host' : Host} (hs : readHost s = .ok host)
    (hst : readHost (s ++ t) = .ok host') : host ≠ host' := by
  -- What is read begins with no bracket, since it does not end with one.
  have hopen : (s ++ t).head? ≠ some '[' := by
    intro hbracket
    have hlast := bracket_of_readHost hst hbracket
    rw [List.getLast?_append_of_ne_nil _ h.ne_nil] at hlast
    exact h.not_mem (by decide) (by decide) (by decide) (List.mem_of_getLast? hlast)
  have hopen' : s.head? ≠ some '[' := by
    intro hbracket
    rw [List.head?_append, hbracket] at hopen
    exact hopen rfl
  rcases exists_domain?_of_readHost hopen' hs with ⟨name, hname, hhost⟩
  rcases exists_domain?_of_readHost hopen hst with ⟨name', hname', hhost'⟩
  have hlt := count_lt_of_domain? h hname hname'
  have haddress : Ipv4.ofText? name' = none :=
    Ipv4.ofText?_comma (List.count_pos_iff.mp (Nat.zero_lt_of_lt hlt))
  rcases hhost' with rfl | ⟨address', haddress', -⟩
  · rintro rfl
    rcases hhost with hsame | ⟨address, -, hsame⟩
    · rw [Host.name.inj hsame] at hlt
      exact Nat.lt_irrefl _ hlt
    · cases hsame
  · rw [haddress] at haddress'
    cases haddress'

/-- An address in brackets is read alike under all schemes. -/
theorem readOtherHost_of_bracket (h : s.head? = some '[') : readOtherHost s = readHost s := by
  unfold readOtherHost
  split
  · rfl
  · rename_i hopen
    rcases List.head?_eq_some_iff.mp h with ⟨rest, rfl⟩
    exact absurd rfl (hopen rest)

/-- Any other host is escaped and is a name. -/
theorem eq_of_readOtherHost (hopen : s.head? ≠ some '[') {host : Host}
    (h : readOtherHost s = .ok host) : host = .name (Percent.encode Percent.always s) := by
  unfold readOtherHost at h
  split at h
  · exact absurd rfl hopen
  · split at h
    · cases h
    · exact (Except.ok.inj h).symm

/-- A host that a remainder was put behind is another host, under the other schemes
    as well. There it is not looked up, so it shows as it is. -/
theorem readOtherHost_append (h : Remainder t) {host host' : Host}
    (hs : readOtherHost s = .ok host) (hst : readOtherHost (s ++ t) = .ok host') :
    host ≠ host' := by
  have hhead : (s ++ t).head? = some '[' ↔ s.head? = some '[' := by
    cases s with
    | nil =>
        refine iff_of_false (fun hbracket => ?_) (Option.some_ne_none _).symm
        exact h.not_mem (by decide) (by decide) (by decide) (List.mem_of_head? hbracket)
    | cons c rest => exact Iff.rfl
  by_cases hbracket : s.head? = some '['
  · rw [readOtherHost_of_bracket hbracket] at hs
    rw [readOtherHost_of_bracket (hhead.mpr hbracket)] at hst
    exact readHost_append h hs hst
  · rw [eq_of_readOtherHost hbracket hs, eq_of_readOtherHost (mt hhead.mp hbracket) hst]
    exact fun heq => encode_append_ne (by decide) h s (Host.name.inj heq).symm

/-- Without a colon, all of a text is host. -/
theorem hostLength_of_not_mem (h : ':' ∉ s) (bracketed : Bool) :
    hostLength bracketed s = s.length := by
  induction s generalizing bracketed with
  | nil => rfl
  | cons c s ih =>
      rw [List.mem_cons, not_or] at h
      rw [hostLength, if_neg (by simp [Ne.symm h.1]), ih h.2, List.length_cons]

/-- The host in front of a text ends at the same colon, or all of it is host. The
    induction is on the text, with the bracket that may be open. -/
theorem hostLength_append (h : Remainder t) (bracketed : Bool) (s : List Char) :
    (hostLength bracketed s < s.length ∧ hostLength bracketed (s ++ t) = hostLength bracketed s) ∨
    (hostLength bracketed s = s.length ∧ hostLength bracketed (s ++ t) = (s ++ t).length) := by
  have hcolon : ':' ∉ t := h.not_mem (by decide) (by decide) (by decide)
  induction s generalizing bracketed with
  | nil => exact .inr ⟨rfl, hostLength_of_not_mem hcolon bracketed⟩
  | cons c s ih =>
      rw [List.cons_append, hostLength, hostLength]
      split
      · exact .inl ⟨Nat.succ_pos _, rfl⟩
      · rcases ih (c == '[' || (bracketed && c != ']')) with ⟨hlt, heq⟩ | ⟨hall, heq⟩
        · exact .inl ⟨Nat.succ_lt_succ hlt, by rw [heq]⟩
        · exact .inr ⟨by rw [hall, List.length_cons], by rw [heq, List.length_cons]⟩

/-- Behind a port there is what its digits leave. -/
theorem rest_of_readPort {scheme rest : List Char} {port : Option Nat}
    (h : readPort scheme s = .ok (port, rest)) : rest = s.dropWhile Char.isDigit := by
  unfold readPort at h
  dsimp only at h
  split at h
  · cases h
  split at h
  · cases h
  split at h
  · cases h
    rfl
  · cases h
    rfl

/-- What follows a port goes on with the remainder. -/
theorem readPort_append (h : Remainder t) {scheme rest rest' : List Char} {port port' : Option Nat}
    (hs : readPort scheme s = .ok (port, rest))
    (hst : readPort scheme (s ++ t) = .ok (port', rest')) : rest' = rest ++ t := by
  have hdigit : ∀ c ∈ t.head?, Char.isDigit c = false :=
    fun c hc => (h.loose c (List.mem_of_head? hc)).isDigit_eq
  rw [rest_of_readPort hs, rest_of_readPort hst, Text.dropWhile_append_of_head hdigit]

/-- What succeeds in two steps succeeds in each. -/
theorem exists_of_bind_eq_ok {ε α β : Type} {result : Except ε α} {f : α → Except ε β} {b : β}
    (h : result >>= f = .ok b) : ∃ a, result = .ok a ∧ f a = .ok b := by
  cases result with
  | error e => cases h
  | ok a => exact ⟨a, rfl, h⟩

/-- Reads a host under a family of schemes. -/
def readHostUnder (kind : SchemeKind) (s : List Char) : Except UrlError Host :=
  if kind = .other then readOtherHost s else readHost s

/-- Under any scheme the host is another one. -/
theorem readHostUnder_append (h : Remainder t) {host host' : Host}
    (hs : readHostUnder kind s = .ok host) (hst : readHostUnder kind (s ++ t) = .ok host') :
    host ≠ host' := by
  unfold readHostUnder at hs hst
  split at hs
  · rename_i hother
    rw [if_pos hother] at hst
    exact readOtherHost_append h hs hst
  · rename_i hother
    rw [if_neg hother] at hst
    exact readHost_append h hs hst

/-- Where the host in front of a text ends. -/
def hostEnd (kind : SchemeKind) (s : List Char) : Nat :=
  hostLength false (s.takeWhile (!endsAuthority kind ·))

/-- The host ends where it did, or it is all of the text and goes on with the
    remainder. -/
theorem hostEnd_append (h : Remainder t) (s : List Char) :
    (hostEnd kind s < s.length ∧ hostEnd kind (s ++ t) = hostEnd kind s) ∨
    (hostEnd kind s = s.length ∧ hostEnd kind (s ++ t) = (s ++ t).length) := by
  unfold hostEnd
  rcases Text.takeWhile_dropWhile_append (h.not_endsAuthority kind) s with
    ⟨hs, -, hst, -⟩ | ⟨hrest, hst, -⟩
  · rw [hs, hst]
    exact hostLength_append h false s
  · rw [hst]
    refine .inl ⟨?_, rfl⟩
    have hle : hostLength false (s.takeWhile (!endsAuthority kind ·)) ≤
        (s.takeWhile (!endsAuthority kind ·)).length := by
      rcases hostLength_append h false (s.takeWhile (!endsAuthority kind ·)) with
        ⟨hlt, -⟩ | ⟨heq, -⟩
      · exact Nat.le_of_lt hlt
      · exact Nat.le_of_eq heq
    -- Something ends the authority, and the host ends before that.
    have hpos := List.length_pos_iff.mpr hrest
    have hlength := congrArg List.length
      (List.takeWhile_append_dropWhile (p := (!endsAuthority kind ·)) (l := s))
    rw [List.length_append] at hlength
    omega

/-- What is read behind a host: a port, or nothing if there is no colon. -/
inductive ReadsPort (scheme : List Char) : List Char → Option Nat → List Char → Prop where
  | given {behind rest : List Char} {port : Option Nat}
      (read : readPort scheme behind = .ok (port, rest)) :
      ReadsPort scheme (':' :: behind) port rest
  | absent {rest : List Char} (nocolon : rest.head? ≠ some ':') : ReadsPort scheme rest none rest

/-- What is read behind a host goes on with the remainder, whether there is a port
    or not. -/
theorem ReadsPort.append (h : Remainder t) (hne : s ≠ []) {scheme rest rest' : List Char}
    {port port' : Option Nat} (hs : ReadsPort scheme s port rest)
    (hst : ReadsPort scheme (s ++ t) port' rest') : rest' = rest ++ t := by
  cases hs with
  | @given behind _ _ read =>
      change ReadsPort scheme (':' :: (behind ++ t)) port' rest' at hst
      cases hst with
      | given read' => exact readPort_append h read read'
      | absent nocolon => exact absurd rfl nocolon
  | absent nocolon =>
      generalize happend : s ++ t = appended at hst
      cases hst with
      | given read' =>
          rw [← List.head?_append_of_ne_nil s hne, happend] at nocolon
          exact absurd rfl nocolon
      | absent nocolon' => rfl

/-- Reads a port behind a host, if there is a colon. -/
def readBehind (scheme : List Char) (host : Host) (s : List Char) :
    Except UrlError (Host × Option Nat × List Char) :=
  match s with
  | ':' :: behind =>
    if host.isEmpty then .error .emptyHost
    else readPort scheme behind >>= fun read => pure (host, read.1, read.2)
  | _ => pure (host, none, s)

/-- What is read behind a host is a port, or nothing if no colon is there. -/
theorem readsPort_of_readBehind {scheme rest : List Char} {host host' : Host} {port : Option Nat}
    (h : readBehind scheme host s = .ok (host', port, rest)) :
    host' = host ∧ ReadsPort scheme s port rest := by
  unfold readBehind at h
  split at h
  · split at h
    · cases h
    · rcases exists_of_bind_eq_ok h with ⟨⟨port', rest'⟩, hport, heq⟩
      cases heq
      exact ⟨rfl, .given hport⟩
  · rename_i hcolon
    cases h
    refine ⟨rfl, .absent fun hhead => ?_⟩
    rcases List.head?_eq_some_iff.mp hhead with ⟨behind, hs⟩
    exact hcolon behind hs

/-- Host and port as they are read. -/
theorem of_readHostAndPort {scheme rest : List Char} {host : Host} {port : Option Nat}
    (h : readHostAndPort scheme kind s = .ok (host, port, rest)) :
    readHostUnder kind (s.take (hostEnd kind s)) = .ok host ∧
      ReadsPort scheme (s.drop (hostEnd kind s)) port rest := by
  -- What follows the host is read in the same way, whichever family it is of.
  have hread : ∀ result : Except UrlError Host,
      (result >>= fun host => readBehind scheme host (s.drop (hostEnd kind s))) =
        .ok (host, port, rest) →
      result = .ok host ∧ ReadsPort scheme (s.drop (hostEnd kind s)) port rest := by
    intro result hresult
    rcases exists_of_bind_eq_ok hresult with ⟨host', rfl, hrest⟩
    rcases readsPort_of_readBehind hrest with ⟨rfl, hport⟩
    exact ⟨rfl, hport⟩
  unfold readHostAndPort at h
  dsimp only at h
  unfold readHostUnder
  split at h
  · rename_i hother
    rw [if_pos hother]
    exact hread _ h
  · rename_i hother
    rw [if_neg hother]
    split at h
    · cases h
    · exact hread _ h

/-- A remainder belongs to the host, which it makes another one, or it is behind host
    and port. -/
theorem readHostAndPort_append (h : Remainder t) {scheme rest rest' : List Char}
    {host host' : Host} {port port' : Option Nat}
    (hs : readHostAndPort scheme kind s = .ok (host, port, rest))
    (hst : readHostAndPort scheme kind (s ++ t) = .ok (host', port', rest')) :
    host ≠ host' ∨ rest' = rest ++ t := by
  rcases of_readHostAndPort hs with ⟨hhost, hport⟩
  rcases of_readHostAndPort hst with ⟨hhost', hport'⟩
  rcases hostEnd_append h s with ⟨hlt, hend⟩ | ⟨hall, hend⟩
  · -- The host ends where it did.
    rw [hend, List.drop_append_of_le_length hlt.le] at hport'
    exact .inr (hport.append h (mt List.drop_eq_nil_iff.mp (Nat.not_le.mpr hlt)) hport')
  · -- All of it is host, with the remainder.
    rw [hall, List.take_length] at hhost
    rw [hend, List.take_length] at hhost'
    exact .inl (readHostUnder_append h hhost hhost')

/-! ## Authorities -/

/-- Behind the last at sign there is none, and without one it is all of the text. -/
theorem splitLastAt_snd (s : List Char) :
    (splitLastAt s).2 = (s.reverse.takeWhile (· != '@')).reverse := by
  unfold splitLastAt
  split
  · rename_i hnone
    have hall := List.takeWhile_append_dropWhile (p := (· != '@')) (l := s.reverse)
    rw [hnone, List.append_nil] at hall
    rw [hall, List.reverse_reverse]
  · rfl

/-- What follows the user in a text. -/
def behindUser (kind : SchemeKind) (s : List Char) : List Char :=
  (splitLastAt (s.takeWhile (!endsAuthority kind ·))).2 ++ s.dropWhile (!endsAuthority kind ·)

/-- A remainder is behind the user. -/
theorem behindUser_append (h : Remainder t) (s : List Char) :
    behindUser kind (s ++ t) = behindUser kind s ++ t := by
  have hsign : ∀ c ∈ t.reverse, (c != '@') = true := fun c hc => bne_iff_ne.mpr fun heq =>
    h.not_mem (by decide) (by decide) (by decide) (heq ▸ List.mem_reverse.mp hc)
  unfold behindUser
  rcases Text.takeWhile_dropWhile_append (h.not_endsAuthority kind) s with
    ⟨hs, hrest, hst, hrest'⟩ | ⟨-, hst, hrest'⟩
  · -- Nothing ends the authority, so the remainder is behind the last at sign.
    rw [hs, hst, hrest, hrest', splitLastAt_snd, splitLastAt_snd, List.reverse_append,
      List.takeWhile_append_of_pos hsign, List.reverse_append, List.reverse_reverse,
      List.append_nil, List.append_nil]
  · rw [hst, hrest', List.append_assoc]

/-- Host and port stand behind the user. -/
theorem of_readAuthority {scheme rest : List Char} {authority : Authority}
    (h : readAuthority scheme kind s = .ok (authority, rest)) : ∃ port,
      readHostAndPort scheme kind (behindUser kind s) = .ok (authority.host, port, rest) := by
  unfold readAuthority at h
  dsimp only at h
  split at h
  · cases h
  · rcases exists_of_bind_eq_ok h with ⟨⟨host, port, rest'⟩, hread, hauthority⟩
    dsimp only at hauthority
    split at hauthority
    · cases hauthority
    · cases hauthority
      exact ⟨port, hread⟩

/-- URLs with a remainder in what follows the authority differ, even if nothing else
    does. -/
theorem withSegments_append (h : Remainder t) (scheme : List Char)
    (authority authority' : Option Authority) (rest : List Char) :
    withSegments scheme authority (readPath kind rest) (readMarks kind (afterPath rest)) ≠
      withSegments scheme authority' (readPath kind (rest ++ t))
        (readMarks kind (afterPath (rest ++ t))) := by
  intro heq
  have hpath := UrlPath.segments.inj (congrArg Url.path heq)
  have hmarks : readMarks kind (afterPath rest) = readMarks kind (afterPath (rest ++ t)) :=
    Prod.ext (congrArg Url.query heq) (congrArg Url.fragment heq)
  exact resource_append h rest (Prod.ext hpath hmarks)

/-- URLs with a remainder are other URLs: the host differs, or what follows the port
    does. -/
theorem readAfterSlashes_append (h : Remainder t) {scheme : List Char} {u u' : Url}
    (hs : readAfterSlashes scheme kind s = .ok u)
    (hst : readAfterSlashes scheme kind (s ++ t) = .ok u') : u ≠ u' := by
  rcases exists_of_bind_eq_ok hs with ⟨⟨authority, rest⟩, hauthority, hu⟩
  rcases exists_of_bind_eq_ok hst with ⟨⟨authority', rest'⟩, hauthority', hu'⟩
  cases hu
  cases hu'
  rcases of_readAuthority hauthority with ⟨port, hread⟩
  rcases of_readAuthority hauthority' with ⟨port', hread'⟩
  rw [behindUser_append h] at hread'
  rcases readHostAndPort_append h hread hread' with hhost | hrest
  · intro heq
    exact hhost (congrArg Authority.host (Option.some.inj (congrArg Url.authority heq)))
  · rw [hrest]
    exact withSegments_append h scheme _ _ rest

/-! ## Files -/

/-- A URL that a host and what follows it name a file by. -/
def fileUrl (scheme : List Char) (host : Host) (rest : List Char) : Url :=
  withSegments scheme
    (some { noHost with host := if meetsDrive [] (filePieces rest) then .name [] else host })
    (readPath .file rest) (readMarks .file (afterPath rest))

/-- A host in front of a file's path: two slashes stand before it, and it names no
    drive. -/
inductive FileHost : List Char → List Char → List Char → Prop where
  | mk {a b : Char} {behind : List Char} (ha : isSlash .file a = true)
      (hb : isSlash .file b = true)
      (hdrive : UrlPath.isDrive (behind.takeWhile (!endsAuthority .file ·)) = false) :
      FileHost (a :: b :: behind) (behind.takeWhile (!endsAuthority .file ·))
        (behind.dropWhile (!endsAuthority .file ·))

/-- With a host, the URL of a file is made of that and of the path behind it. -/
theorem readFile_of_host {block rest : List Char} (h : FileHost s block rest)
    (scheme : List Char) : readFile scheme s =
      readFileHost block >>= fun host => .ok (fileUrl scheme host rest) := by
  rcases h with ⟨ha, hb, hdrive⟩
  unfold readFile
  simp only [ha, hb, hdrive, Bool.and_self, if_true, Bool.false_eq_true, if_false, pure_bind]
  rfl

/-- A file has no other host than one in front of its path. -/
theorem exists_host_of_readFile {scheme : List Char} {u : Url} (h : readFile scheme s = .ok u)
    (hhost : ∀ authority, u.authority = some authority → authority.host ≠ .name []) :
    ∃ block rest, FileHost s block rest := by
  -- In every other case the host is empty from the beginning.
  have hnone : ∀ rest, u ≠ fileUrl scheme (.name []) rest := by
    rintro rest rfl
    refine hhost _ rfl ?_
    dsimp only
    split <;> rfl
  unfold readFile at h
  dsimp only at h
  split at h
  · split at h
    · rename_i hslashes
      rcases Bool.and_eq_true_iff.mp hslashes with ⟨ha, hb⟩
      split at h
      · exact absurd (Except.ok.inj h).symm (hnone _)
      · rename_i hdrive
        exact ⟨_, _, .mk ha hb (Bool.eq_false_iff.mpr hdrive)⟩
    · exact absurd (Except.ok.inj h).symm (hnone _)
  · exact absurd (Except.ok.inj h).symm (hnone _)

/-- A remainder behind a file with a host is behind its path, or belongs to the host. -/
theorem FileHost.append (h : Remainder t) {block rest : List Char} (hs : FileHost s block rest) :
    FileHost (s ++ t) block (rest ++ t) ∨
      (rest = [] ∧ FileHost (s ++ t) (block ++ t) []) := by
  rcases hs with @⟨a, b, behind, ha, hb, hdrive⟩
  rcases Text.takeWhile_dropWhile_append (h.not_endsAuthority .file) behind with
    ⟨hall, hrest, hall', hrest'⟩ | ⟨-, hblock, hrest⟩
  · right
    refine ⟨hrest, ?_⟩
    have hcomma : UrlPath.isDrive (behind ++ t) = false :=
      UrlPath.isDrive_of_comma (List.mem_append_right behind h.comma)
    have happend : FileHost (a :: b :: (behind ++ t)) _ _ :=
      .mk ha hb ((congrArg UrlPath.isDrive hall').trans hcomma)
    rw [hall', hrest'] at happend
    rw [hall]
    exact happend
  · left
    have happend : FileHost (a :: b :: (behind ++ t)) _ _ := .mk ha hb (hblock ▸ hdrive)
    rw [hblock, hrest] at happend
    exact happend

/-- The host of a file is the host that is read, unless that is the local one. -/
theorem of_readFileHost {host : Host} (hs : s ≠ []) (h : readFileHost s = .ok host) :
    host = .name [] ∨ readHost s = .ok host := by
  cases s with
  | nil => exact absurd rfl hs
  | cons c s =>
      rcases exists_of_bind_eq_ok h with ⟨host', hread, hhost⟩
      obtain rfl := Except.ok.inj hhost
      split
      · exact .inl rfl
      · exact .inr hread

/-- The host of a file is another one with a remainder behind it. -/
theorem readFileHost_append (h : Remainder t) {host host' : Host} (hname : host ≠ .name [])
    (hs : readFileHost s = .ok host) (hst : readFileHost (s ++ t) = .ok host') : host ≠ host' := by
  have hne : s ≠ [] := by
    rintro rfl
    exact hname (Except.ok.inj hs).symm
  -- The host is not the local one, so it is the one that was read.
  have hread := (of_readFileHost hne hs).resolve_left hname
  rcases of_readFileHost (List.append_ne_nil_of_left_ne_nil hne t) hst with rfl | hread'
  · exact hname
  · exact readHost_append h hread hread'

/-- The URL of a file with a host is another one with a remainder. Either its path
    goes on, or there is none and the host does. -/
theorem readFile_append (h : Remainder t) {scheme : List Char} {u u' : Url}
    (hhost : ∀ authority, u.authority = some authority → authority.host ≠ .name [])
    (hs : readFile scheme s = .ok u) (hst : readFile scheme (s ++ t) = .ok u') : u ≠ u' := by
  rcases exists_host_of_readFile hs hhost with ⟨block, rest, hfile⟩
  rw [readFile_of_host hfile] at hs
  rcases exists_of_bind_eq_ok hs with ⟨host, hread, hu⟩
  obtain rfl := Except.ok.inj hu
  rcases hfile.append h with hfile' | ⟨rfl, hfile'⟩
  · rw [readFile_of_host hfile'] at hst
    rcases exists_of_bind_eq_ok hst with ⟨host', hread', hu'⟩
    obtain rfl := Except.ok.inj hu'
    exact withSegments_append h scheme _ _ rest
  · rw [readFile_of_host hfile'] at hst
    rcases exists_of_bind_eq_ok hst with ⟨host', hread', hu'⟩
    obtain rfl := Except.ok.inj hu'
    intro heq
    have hsame : host = host' :=
      congrArg Authority.host (Option.some.inj (congrArg Url.authority heq))
    -- Both hosts were read in front of no path, and they differ.
    exact readFileHost_append h (hhost _ rfl) hread hread' hsame

end Url

end EventFlow
