import EventFlow.Url
import EventFlow.Url.Domain

/-!
# Reading a URL

The URL that a text denotes on its own, without a base.

Controls and spaces around the text are ignored, and so are tabs and line ends anywhere in it. What
follows the scheme depends on its family. A special scheme is followed by an authority whatever
slashes and backslashes stand there, the file scheme by a host only after two slashes, and any other
scheme by an authority after two slashes, by a path after one, and by undivided text otherwise.

## Main definitions

* `UrlError`: why a text is not a URL.
* `Url.ofText`: the URL of a text.
-/

namespace EventFlow

/-- Why a text is not a URL. -/
inductive UrlError where
  /-- There is no scheme. -/
  | relative
  | emptyHost
  | invalidPort
  | invalidIpv4
  | invalidIpv6
  /-- The host is not a domain name. -/
  | invalidDomain
  /-- The host has a character that no host may have. -/
  | invalidCharacter
  deriving DecidableEq, Repr, Inhabited

namespace UrlError

/-- How an error is shown. -/
def message : UrlError → String
  | relative => "relative URL without a base"
  | emptyHost => "empty host"
  | invalidPort => "invalid port number"
  | invalidIpv4 => "invalid IPv4 address"
  | invalidIpv6 => "invalid IPv6 address"
  | invalidDomain => "invalid international domain name"
  | invalidCharacter => "invalid domain character"

end UrlError

namespace Url

/-- Whether a character is ignored at the ends of a text. -/
def isBorder (c : Char) : Bool := c.toNat ≤ 0x20

/-- A text without what is ignored in it. -/
def significant (s : List Char) : List Char :=
  (Text.strip isBorder s).filter (!UrlPath.isIgnored ·)

/-- Whether a character may stand in a scheme behind the first one. -/
def isSchemeChar (c : Char) : Bool :=
  c.isAlphanum || c == '+' || c == '-' || c == '.'

/-- The scheme in front of a text, in lower case, and what follows its colon. -/
def splitScheme : List Char → Option (List Char × List Char)
  | [] => none
  | c :: rest =>
    if c.isAlpha then
      match rest.dropWhile isSchemeChar with
      -- Schemes are compared in lower case and kept that way.
      | ':' :: after => some ((c :: rest.takeWhile isSchemeChar).map Char.toLower, after)
      | _ => none
    else none

/-- Whether a character separates segments under a family of schemes. -/
def isSlash (kind : SchemeKind) (c : Char) : Bool :=
  c == '/' || (kind.isSpecial && c == '\\')

/-- Whether a character begins the query or the fragment. -/
def isMark (c : Char) : Bool := c == '?' || c == '#'

/-- Whether a character ends the authority. -/
def endsAuthority (kind : SchemeKind) (c : Char) : Bool :=
  isSlash kind c || isMark c

/-- The query and the fragment of a text that begins with one of them or is empty. -/
def readMarks (kind : SchemeKind) (s : List Char) : Option (List Char) × Option (List Char) :=
  let fragment : List Char → Option (List Char)
    | '#' :: rest => some (Percent.encode Percent.inFragment rest)
    | _ => none
  match s with
  | '?' :: rest =>
    let set := if kind.isSpecial then Percent.inSpecialQuery else Percent.inQuery
    (some (Percent.encode set (rest.takeWhile (· != '#'))),
      fragment (rest.dropWhile (· != '#')))
  | _ => (none, fragment s)

/-- A text divided at each character of a class. -/
def splitWhere (p : Char → Bool) : List Char → List (List Char)
  | [] => [[]]
  | c :: rest =>
    if p c then [] :: splitWhere p rest
    else
      match splitWhere p rest with
      | [] => [[c]]
      | piece :: pieces => (c :: piece) :: pieces

/-- The segments of a path that was divided into pieces. -/
def stepAll (kind : SchemeKind) (done : List (List Char)) : List (List Char) → List (List Char)
  | [] => done
  | [piece] => UrlPath.step kind done (Percent.encode Percent.inPath piece) true
  | piece :: pieces =>
    stepAll kind (UrlPath.step kind done (Percent.encode Percent.inPath piece) false) pieces

/-- The segments of the path in front of a query or fragment, from after the slash it begins
    with. -/
def readSegments (kind : SchemeKind) (s : List Char) : List (List Char) :=
  UrlPath.settle kind (stepAll kind [] (splitWhere (isSlash kind) (s.takeWhile (!isMark ·))))

/-- The segments of the path behind an authority. Only under a special scheme is there always
    one. -/
def readPath (kind : SchemeKind) (s : List Char) : List (List Char) :=
  match s with
  | [] => if kind.isSpecial then [[]] else []
  | c :: rest =>
    if isSlash kind c then readSegments kind rest
    else if isMark c && !kind.isSpecial then []
    else readSegments kind s

/-- What follows the path. -/
def afterPath (s : List Char) : List Char := s.dropWhile (!isMark ·)

/-- The host of a special scheme. -/
def readHost (s : List Char) : Except UrlError Host :=
  match s with
  | '[' :: rest =>
    if rest.getLast? = some ']' then
      match Ipv6.ofText? rest.dropLast with
      | some pieces => .ok (.ipv6 pieces)
      | none => .error .invalidIpv6
    else .error .invalidIpv6
  | _ =>
    -- Escapes are resolved before the domain is read, so `%41` is the letter that it stands for.
    match ((Bytes.text? (Percent.decode s)).map String.toList).bind Domain.toAscii? with
    | none => .error .invalidDomain
    | some [] => .error .emptyHost
    | some domain =>
      -- A last part that looks like a number makes the whole host an address, or invalid.
      if Ipv4.endsInNumber domain then
        match Ipv4.ofText? domain with
        | some address => .ok (.ipv4 address)
        | none => .error .invalidIpv4
      else .ok (.name domain)

/-- Whether no host may have a character. -/
def isForbidden (c : Char) : Bool :=
  "\x00\t\n\r #/:<>?@[\\]^|".toList.contains c

/-- The host of a scheme without rules for hosts. -/
def readOtherHost (s : List Char) : Except UrlError Host :=
  match s with
  | '[' :: _ => readHost s
  | _ =>
    if s.any isForbidden then .error .invalidCharacter
    else .ok (.name (Percent.encode Percent.always s))

/-- The length of the host in front of a text: up to a colon outside brackets. -/
def hostLength (bracketed : Bool) : List Char → Nat
  | [] => 0
  | c :: rest =>
    if c = ':' && !bracketed then 0
    else hostLength (c == '[' || (bracketed && c != ']')) rest + 1

/-- The port in front of a text. -/
def readPort (scheme : List Char) (s : List Char) : Except UrlError (Option Nat × List Char) :=
  let digits := s.takeWhile Char.isDigit
  let rest := s.dropWhile Char.isDigit
  let port := (numeralIn? 10 digits).getD 0
  -- A number that is too large is found out before a character that may not follow.
  if 65535 < port then .error .invalidPort
  else if rest.head?.any fun c => !(c == '/' || c == '\\' || isMark c) then .error .invalidPort
  else if digits.isEmpty || SchemeKind.defaultPort? scheme = some port then .ok (none, rest)
  else .ok (some port, rest)

/-- The user name and the password of a text before an at sign. -/
def readUserInfo (s : List Char) : List Char × List Char :=
  let encode := Percent.encode Percent.inUserInfo
  (encode (s.takeWhile (· != ':')), encode ((s.dropWhile (· != ':')).drop 1))

/-- The text up to the last at sign, if there is one, and the text behind it. -/
def splitLastAt (s : List Char) : Option (List Char) × List Char :=
  match s.reverse.dropWhile (· != '@') with
  | [] => (none, s)
  | _ :: before => (some before.reverse, (s.reverse.takeWhile (· != '@')).reverse)

/-- Reads host and port, and what follows them. -/
def readHostAndPort (scheme : List Char) (kind : SchemeKind) (s : List Char) :
    Except UrlError (Host × Option Nat × List Char) := do
  let length := hostLength false (s.takeWhile (!endsAuthority kind ·))
  let rest := s.drop length
  let host ←
    if kind = .other then readOtherHost (s.take length)
    else if length = 0 then .error .emptyHost
    else readHost (s.take length)
  match rest with
  -- Where there is a port, there has to be a host.
  | ':' :: rest =>
    if host.isEmpty then .error .emptyHost
    else
      let (port, rest) ← readPort scheme rest
      return (host, port, rest)
  | _ => return (host, none, rest)

/-- Reads an authority and what follows it, from after the slashes. -/
def readAuthority (scheme : List Char) (kind : SchemeKind) (s : List Char) :
    Except UrlError (Authority × List Char) := do
  let block := s.takeWhile (!endsAuthority kind ·)
  let rest := s.dropWhile (!endsAuthority kind ·)
  let (info, block) := splitLastAt block
  -- An at sign with nothing before or behind it.
  if info = some [] && block.isEmpty && !rest.isEmpty then .error .emptyHost
  else
    let (username, password) := readUserInfo (info.getD [])
    let (host, port, rest) ← readHostAndPort scheme kind (block ++ rest)
    if host.isEmpty && !(username.isEmpty && password.isEmpty) then .error .emptyHost
    else return (⟨username, password, host, port⟩, rest)

/-- A URL with a path of segments. -/
def withSegments (scheme : List Char) (authority : Option Authority) (list : List (List Char))
    (marks : Option (List Char) × Option (List Char)) : Url :=
  ⟨scheme, authority, .segments list, marks.1, marks.2⟩

/-- Reads what follows the slashes of a URL with an authority. -/
def readAfterSlashes (scheme : List Char) (kind : SchemeKind) (s : List Char) :
    Except UrlError Url := do
  let (authority, rest) ← readAuthority scheme kind s
  return withSegments scheme (some authority) (readPath kind rest) (readMarks kind (afterPath rest))

/-- The authority of a file without a host. -/
def noHost : Authority := ⟨[], [], .name [], none⟩

/-- The host of a file, from after two slashes: none for the local host. -/
def readFileHost (s : List Char) : Except UrlError Host :=
  match s with
  | [] => .ok (.name [])
  | _ => do
    let host ← readHost s
    return if host = .name "localhost".toList then .name [] else host

/-- Whether one of the pieces of a file's path becomes its first segment and names a drive. -/
def meetsDrive (done : List (List Char)) : List (List Char) → Bool
  | [] => false
  | piece :: pieces =>
    (done.isEmpty && UrlPath.isDrive piece) ||
      meetsDrive (UrlPath.step .file done (Percent.encode Percent.inPath piece) false) pieces

/-- The pieces of a file's path, from after the slash it begins with. -/
def filePieces (s : List Char) : List (List Char) :=
  let path := s.takeWhile (!isMark ·)
  match path with
  | [] => []
  | c :: rest => splitWhere (isSlash .file) (if isSlash .file c then rest else path)

/-- Reads what follows the scheme of a file. A path that begins with a drive makes the host
    disappear. -/
def readFile (scheme : List Char) (s : List Char) : Except UrlError Url := do
  let isSep := isSlash .file
  let (host, rest) ←
    match s with
    | a :: b :: rest =>
      if isSep a && isSep b then
        let block := rest.takeWhile (!endsAuthority .file ·)
        if UrlPath.isDrive block then pure (Host.name [], '/' :: rest)
        else do
          let host ← readFileHost block
          pure (host, rest.dropWhile (!endsAuthority .file ·))
      else pure (Host.name [], s)
    | _ => pure (Host.name [], s)
  let host := if meetsDrive [] (filePieces rest) then .name [] else host
  return withSegments scheme (some { noHost with host }) (readPath .file rest)
    (readMarks .file (afterPath rest))

/-- Reads what follows a scheme of no particular family. -/
def readOther (scheme : List Char) (s : List Char) : Except UrlError Url :=
  match s with
  | '/' :: '/' :: rest => readAfterSlashes scheme .other rest
  | '/' :: rest =>
    .ok (withSegments scheme none (readSegments .other rest) (readMarks .other (afterPath rest)))
  | _ =>
    let marks := readMarks .other (afterPath s)
    .ok ⟨scheme, none, .undivided (Percent.encode Percent.always (s.takeWhile (!isMark ·))),
      marks.1, marks.2⟩

/-- The URL of a text. -/
def ofText (text : String) : Except UrlError Url :=
  match splitScheme (significant text.toList) with
  | none => .error .relative
  | some (scheme, rest) =>
    match SchemeKind.of scheme with
    | .file => readFile scheme rest
    -- Any number of slashes, even none, leads up to the authority of a special scheme.
    | .special => readAfterSlashes scheme .special (rest.dropWhile (isSlash .special))
    | .other => readOther scheme rest

end Url

end EventFlow
