import EventFlow.Url.Address
import EventFlow.Url.Percent

/-!
# URLs

The addresses of backends, and the addresses of requests that are built from them.

A URL is kept in the parts it was read into, each already escaped, so its text is only put together
from them. The path of a URL that can serve as a base is a list of segments, and a slash stands
before each: `/` has one segment, which is empty, and the list without segments is the empty path.

Segments are added to a path one by one. A dot segment is skipped, a last segment that is empty is
replaced by the first one added, and everything that would end a segment is escaped. Tabs and line
ends are dropped wherever they occur, and since they are dropped after dot segments were skipped, a
segment of dots and line ends still acts as a dot segment.

## Main definitions

* `Url`: a URL.
* `Url.text`: its text.
* `Url.extend`: segments added to its path.
-/

namespace EventFlow

/-- The host of a URL. -/
inductive Host where
  /-- A name, or anything that a scheme without rules for hosts has there. -/
  | name (s : List Char)
  | ipv4 (address : Nat)
  | ipv6 (pieces : List Nat)
  deriving DecidableEq, Repr, Inhabited

namespace Host

/-- The text of a host. -/
def text : Host → List Char
  | name s => s
  | ipv4 address => Ipv4.text address
  | ipv6 pieces => '[' :: (Ipv6.text pieces ++ [']'])

/-- Whether a host is the empty name. -/
def isEmpty : Host → Bool
  | name s => s.isEmpty
  | _ => false

end Host

/-- The family of a scheme. -/
inductive SchemeKind where
  /-- Files on some host. -/
  | file
  /-- One of the schemes whose hosts are internet hosts. -/
  | special
  /-- Any other scheme. -/
  | other
  deriving DecidableEq, Repr, Inhabited

namespace SchemeKind

/-- The family of a scheme. -/
def of (scheme : List Char) : SchemeKind :=
  let s := String.ofList scheme
  if s = "file" then file
  else if s = "http" || s = "https" || s = "ws" || s = "wss" || s = "ftp" then special
  else other

/-- Whether backslashes count as slashes and a path is never empty. -/
def isSpecial (kind : SchemeKind) : Bool :=
  kind != other

/-- The port that a scheme uses unless another one is given. -/
def defaultPort? (scheme : List Char) : Option Nat :=
  match String.ofList scheme with
  | "http" => some 80
  | "ws" => some 80
  | "https" => some 443
  | "wss" => some 443
  | "ftp" => some 21
  | _ => none

end SchemeKind

/-- Where the resource of a URL is to be found. -/
structure Authority where
  /-- The user name, empty if there is none. -/
  username : List Char
  /-- The password, empty if there is none. -/
  password : List Char
  host : Host
  /-- The port, unless it is the one that the scheme uses anyway. -/
  port : Option Nat
  deriving DecidableEq, Repr, Inhabited

namespace Authority

/-- The text of an authority. -/
def text (a : Authority) : List Char :=
  (if a.username.isEmpty && a.password.isEmpty then []
    else a.username ++ (if a.password.isEmpty then [] else ':' :: a.password) ++ ['@']) ++
  a.host.text ++
  match a.port with
  | some port => ':' :: Nat.toDigits 10 port
  | none => []

end Authority

/-- The path of a URL. -/
inductive UrlPath where
  /-- Segments, a slash before each. -/
  | segments (list : List (List Char))
  /-- Some text that is not divided; such a URL cannot be a base. -/
  | undivided (s : List Char)
  deriving DecidableEq, Repr, Inhabited

namespace UrlPath

/-- The text of segments. -/
def segmentsText (list : List (List Char)) : List Char :=
  list.flatMap fun segment => '/' :: segment

/-- The text of a path. -/
def text : UrlPath → List Char
  | segments list => segmentsText list
  | undivided s => s

/-- Whether a segment names a drive: a letter and a colon or bar. -/
def isDrive : List Char → Bool
  | [c, d] => c.isAlpha && (d == ':' || d == '|')
  | _ => false

/-- The segments without the last one, unless that names a drive. -/
def shorten (done : List (List Char)) : List (List Char) :=
  match done.getLast? with
  | some last => if isDrive last then done else done.dropLast
  | none => []

/-- Whether a segment means the current level. -/
def isDot (segment : List Char) : Bool :=
  let s := segment.map Char.toLower
  s == ['.'] || s == ['%', '2', 'e']

/-- Whether a segment means the level above. -/
def isDotDot (segment : List Char) : Bool :=
  let dot := ['.']
  let escaped := ['%', '2', 'e']
  let s := segment.map Char.toLower
  s == dot ++ dot || s == dot ++ escaped || s == escaped ++ dot || s == escaped ++ escaped

/-- The segments after one more that was read. The last one leaves an empty segment behind when it
    is a dot segment. -/
def step (kind : SchemeKind) (done : List (List Char)) (segment : List Char) (isLast : Bool) :
    List (List Char) :=
  let ending := if isLast then [[]] else []
  if isDotDot segment then shorten done ++ ending
  else if isDot segment then done ++ ending
  else if kind = .file && done.isEmpty && isDrive segment then
    [[segment.headD 'C', ':']]
  else done ++ [segment]

/-- The segments of a file's path: no empty ones in front, except an only one. -/
def settle (kind : SchemeKind) (list : List (List Char)) : List (List Char) :=
  if kind = .file then
    match list.dropWhile List.isEmpty with
    | [] => [[]]
    | kept => kept
  else list

/-- Segments without an empty last one, except the only one. -/
def dropEmptyLast (list : List (List Char)) : List (List Char) :=
  if 1 < list.length && list.getLast? = some [] then list.dropLast else list

/-- Whether a character is dropped wherever it occurs. -/
def isIgnored (c : Char) : Bool :=
  c == '\t' || c == '\n' || c == '\r'

/-- What is written for a segment that is added to a path. -/
def encodeSegment (kind : SchemeKind) (segment : List Char) : List Char :=
  Percent.encode (if kind.isSpecial then Percent.inSpecialSegment else Percent.inSegment)
    (segment.filter (!isIgnored ·))

/-- Adds a segment to a path. -/
def push (kind : SchemeKind) (list : List (List Char)) (segment : List Char) : List (List Char) :=
  if segment = ['.'] || segment = ['.', '.'] then list
  else
    let done := if list = [[]] then [] else list
    settle kind (step kind done (encodeSegment kind segment) true)

end UrlPath

/-- A URL. -/
structure Url where
  scheme : List Char
  /-- What stands between two slashes and the path, if the URL has that. -/
  authority : Option Authority
  path : UrlPath
  query : Option (List Char)
  fragment : Option (List Char)
  deriving DecidableEq, Repr, Inhabited

namespace Url

/-- The family of the scheme. -/
def kind (u : Url) : SchemeKind := SchemeKind.of u.scheme

/-- A part with the character that introduces it. -/
def partText (mark : Char) : Option (List Char) → List Char
  | some s => mark :: s
  | none => []

/-- The text between the scheme and the query. A path that begins with two slashes would look like
    an authority, so `/.` is put before it where there is none. -/
def middleText (u : Url) : List Char :=
  match u.authority with
  | some a => '/' :: '/' :: (a.text ++ u.path.text)
  | none =>
    match u.path with
    | .segments ([] :: second :: rest) => '/' :: '.' :: UrlPath.segmentsText ([] :: second :: rest)
    | path => path.text

/-- The characters of a URL. -/
def chars (u : Url) : List Char :=
  u.scheme ++ ':' :: (u.middleText ++ partText '?' u.query ++ partText '#' u.fragment)

/-- The text of a URL. -/
def text (u : Url) : String := String.ofList u.chars

/-- The text of the host, if the URL has one that is not empty. -/
def hostText? (u : Url) : Option (List Char) :=
  match u.authority with
  | some a => if a.host.isEmpty then none else some a.host.text
  | none => none

/-- Whether requests can be addressed relative to a URL: it has a host, and a path of segments. -/
def isUsable (u : Url) : Bool :=
  match u.path with
  | .segments _ => u.hostText?.isSome
  | .undivided _ => false

/-- The segments of the path. -/
def segments (u : Url) : List (List Char) :=
  match u.path with
  | .segments list => list
  | .undivided _ => []

/-- The URL without query and fragment and with segments added to its path. -/
def extend (u : Url) (segments : List String) : Url :=
  { u with
    query := none
    fragment := none
    path :=
      match u.path with
      | .segments list =>
        .segments ((segments.map String.toList).foldl (UrlPath.push u.kind)
          (UrlPath.dropEmptyLast list))
      | path => path }

end Url

end EventFlow
