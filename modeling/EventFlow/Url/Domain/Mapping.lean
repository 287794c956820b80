import EventFlow.Text.CodeTable
import EventFlow.Url.Domain.Mapping.Table

/-!
# Mapping domain names

What becomes of the characters of a domain name: capital letters become small, characters that are
variants of others become those, some are dropped, and those that no domain name can have make it
invalid.

Capital letters often stand in runs whose small letters form a run too, or in turns with their
small letters; the table writes either as one run.

## Main definitions

* `Domain.Fate`: what becomes of a run of characters.
* `Domain.mapChar?`, `Domain.mapText?`: what becomes of a character and of a text.
* `Domain.isValid`: whether a character stays as it is.
-/

namespace EventFlow

namespace Domain

/-- What becomes of a run of characters. -/
inductive Fate where
  /-- They stay. -/
  | stays
  /-- They are dropped. -/
  | dropped
  /-- No domain name can have them. -/
  | refused
  /-- Every one of them becomes this text. -/
  | becomes (text : List Char)
  /-- They become the characters from this one on, in their order. -/
  | moves (first : Nat)
  /-- The first, the third and so on become the one behind them; the others stay. -/
  | inTurns
  deriving DecidableEq, Repr, Inhabited

/-- What a letter and the numbers behind it stand for. -/
def Fate.ofWord (letter : Char) (numbers : List Nat) : Fate :=
  match letter, numbers with
  | 'V', _ => stays
  | 'I', _ => dropped
  | 'A', _ => inTurns
  | 'S', [first] => moves first
  | 'M', _ => becomes (numbers.map Char.ofNat)
  | _, _ => refused

/-- What becomes of a character at a distance from the beginning of its run, unless it is
    refused. -/
def Fate.apply? (fate : Fate) (distance : Nat) (c : Char) : Option (List Char) :=
  match fate with
  | stays => some [c]
  | dropped => some []
  | refused => none
  | becomes text => some text
  | moves first => some [Char.ofNat (first + distance)]
  | inTurns => if distance % 2 = 0 then some [Char.ofNat (c.toNat + 1)] else some [c]

/-- The table. -/
def mappingTable : CodeTable Fate := .ofRows Fate.ofWord mappingRows

/-- What becomes of a character, unless it is refused. -/
def mapChar? (c : Char) : Option (List Char) :=
  (mappingTable.find? c).bind fun (start, fate) => fate.apply? (c.toNat - start) c

/-- What becomes of a text, unless a character of it is refused. -/
def mapText? (s : List Char) : Option (List Char) :=
  (s.mapM mapChar?).map List.flatten

/-- Whether a character stays as it is. -/
def isValid (c : Char) : Bool :=
  mapChar? c == some [c]

end Domain

end EventFlow
