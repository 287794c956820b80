import EventFlow.Text.Composition
import EventFlow.Url.Domain.Direction
import EventFlow.Url.Domain.Joining
import EventFlow.Url.Domain.Mapping
import EventFlow.Url.Domain.Punycode

/-!
# Domain names

The form in which domain names are compared and looked up.

A name of ASCII characters only becomes small letters, and has to do without the characters that
would end or split a host. In any other name the characters are mapped and composed, and the labels
that are not ASCII afterwards are written in punycode behind `xn--`. A label that begins with
`xn--` already has to be what such a label would have been written as.

Labels that are not ASCII, once they are known, do not begin with a mark, have joiners only where
they belong, and if any label is written from right to left all of them keep to one direction. Names
and labels may be of any length, and labels may be empty.

## Main definitions

* `Domain.isDenied`: the characters that no name can have.
* `Domain.labelOf?`: a label as it is read.
* `Domain.toAscii?`: a name as it is looked up.
-/

namespace EventFlow

namespace Domain

/-- Whether no name can have an ASCII character. -/
def isDenied (c : Char) : Bool :=
  c.toNat ≤ 0x20 || c.toNat = 0x7f || "%#/:<>?@[\\]^|".toList.contains c

/-- What labels in punycode begin with. -/
def mark : List Char := ['x', 'n', '-', '-']

/-- Whether a label says that it is in punycode. -/
def isMarked (label : List Char) : Bool := mark.isPrefixOf (label.map Char.toLower)

/-- The labels of a name. -/
def labels (s : List Char) : List (List Char) := Text.splitAt '.' s

/-- How many characters a label that is not ASCII may have. -/
def maxLabel : Nat := 1000

/-- How many characters a label in punycode may have behind its mark. -/
def maxEncoded : Nat := 2000

/-- A label with what it is looked up as. -/
structure Label where
  /-- The label as it is read. -/
  text : List Char
  /-- The label in ASCII. -/
  ascii : List Char
  deriving DecidableEq, Repr, Inhabited

/-- Whether a label can be written in punycode. -/
def isSound (label : List Char) : Bool :=
  !(label.head?.map Text.isMark).getD false && joinersFit label && label.length ≤ maxLabel

/-- Whether characters are as they would be after mapping and composing. -/
def isSettled (label : List Char) : Bool :=
  label.all isValid && Text.compose label == label

/-- The label that a mark stands before. -/
def decoded? (label : List Char) : Option Label := do
  let encoded := label.drop mark.length
  if maxEncoded < encoded.length then none
  let text ← Punycode.decode? encoded
  if text.all Punycode.isAscii || !isSettled text || !isSound text then none
  return ⟨text, label⟩

/-- A label after mapping and composing. -/
def labelOf? (label : List Char) : Option Label :=
  if isMarked label then decoded? label
  else if label.all Punycode.isAscii then some ⟨label, label⟩
  else if isSound label then some ⟨label, mark ++ Punycode.encode label⟩
  else none

/-- The labels of a name, with `.` between them. -/
def join (parts : List (List Char)) : List Char := ['.'].intercalate parts

/-- A name that is not ASCII, or has a label in punycode. -/
def internationalToAscii? (s : List Char) : Option (List Char) := do
  -- Mapping can bring forth characters that no name can have.
  let settled := Text.compose (← mapText? s)
  if settled.any isDenied then none
  let parts ← (labels settled).mapM labelOf?
  -- One label that is written from right to left puts all labels under the rule.
  if parts.any (fun part => isRightToLeft part.text) &&
      !parts.all (fun part => keepsDirection part.text) then none
  return join (parts.map (·.ascii))

/-- A name as it is looked up. -/
def toAscii? (s : List Char) : Option (List Char) :=
  if s.all Punycode.isAscii && !(labels s).any isMarked then
    if s.any isDenied then none else some (s.map Char.toLower)
  else internationalToAscii? s

end Domain

end EventFlow
