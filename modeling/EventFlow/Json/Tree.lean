import EventFlow.Json.Token

/-!
# JSON structure

The nesting of a JSON text, before anything is said about what its strings and numbers mean.

A text is read by a machine that takes one token at a time and keeps the containers that are still
open on a stack. Members of an object are kept in the order of the text, repeated names included:
what a repeated name means depends on who reads the object.

## Main definitions

* `Json.Tree`: a JSON text as it was written.
* `Json.Machine.step`: what one token does.
* `Json.Tree.ofBytes?`: the tree of a text.
-/

namespace EventFlow

namespace Json

/-- A JSON text as it was written. -/
inductive Tree where
  | null
  | bool (value : Bool)
  | number (numeral : Numeral)
  | text (raw : RawText)
  | array (items : List Tree)
  | object (members : List (RawText × Tree))
  deriving Repr, Inhabited

/-- A container that is still open. What it holds is listed last first. -/
inductive Frame where
  /-- An array. -/
  | array (items : List Tree)
  /-- An object between two members. -/
  | object (members : List (RawText × Tree))
  /-- An object that waits for the value of a name. -/
  | member (members : List (RawText × Tree)) (name : RawText)
  deriving Repr, Inhabited

/-- What may come next. -/
inductive Expect where
  /-- A value. -/
  | value
  /-- A value, or the end of an array that has none yet. -/
  | firstItem
  /-- The name of a member. -/
  | name
  /-- The name of a member, or the end of an object that has none yet. -/
  | firstName
  /-- The colon between a name and its value. -/
  | colon
  /-- A comma, or the end of the innermost container. -/
  | separator
  /-- Nothing: the tree is complete. -/
  | nothing (tree : Tree)
  deriving Repr, Inhabited

/-- A text that has been read in part. -/
structure Machine where
  /-- The open containers, innermost first. -/
  stack : List Frame
  /-- What may come next. -/
  expect : Expect
  deriving Repr, Inhabited

namespace Machine

/-- Nothing read yet. -/
def start : Machine := ⟨[], .value⟩

/-- A value is complete: it goes into the innermost container, or is the whole text. -/
def complete (stack : List Frame) (tree : Tree) : Option Machine :=
  match stack with
  | [] => some ⟨[], .nothing tree⟩
  | .array items :: stack => some ⟨.array (tree :: items) :: stack, .separator⟩
  | .member members name :: stack => some ⟨.object ((name, tree) :: members) :: stack, .separator⟩
  | .object _ :: _ => none

/-- The innermost array ends. -/
def closeArray (stack : List Frame) : Option Machine :=
  match stack with
  | .array items :: stack => complete stack (.array items.reverse)
  | _ => none

/-- The innermost object ends. -/
def closeObject (stack : List Frame) : Option Machine :=
  match stack with
  | .object members :: stack => complete stack (.object members.reverse)
  | _ => none

/-- A value begins. -/
def beginValue (stack : List Frame) : Token → Option Machine
  | .null => complete stack .null
  | .bool value => complete stack (.bool value)
  | .number numeral => complete stack (.number numeral)
  | .text raw => complete stack (.text raw)
  | .openArray => some ⟨.array [] :: stack, .firstItem⟩
  | .openObject => some ⟨.object [] :: stack, .firstName⟩
  | _ => none

/-- A member begins. -/
def beginMember (stack : List Frame) : Token → Option Machine
  | .text name =>
    match stack with
    | .object members :: stack => some ⟨.member members name :: stack, .colon⟩
    | _ => none
  | _ => none

/-- A container goes on after a complete value. -/
def goOn (stack : List Frame) : Token → Option Machine
  | .comma =>
    match stack with
    | .array _ :: _ => some ⟨stack, .value⟩
    | .object _ :: _ => some ⟨stack, .name⟩
    | _ => none
  | .closeArray => closeArray stack
  | .closeObject => closeObject stack
  | _ => none

/-- What one token does. -/
def step (m : Machine) (token : Token) : Option Machine :=
  match m.expect with
  | .value => beginValue m.stack token
  | .firstItem =>
    match token with
    | .closeArray => closeArray m.stack
    | _ => beginValue m.stack token
  | .name => beginMember m.stack token
  | .firstName =>
    match token with
    | .closeObject => closeObject m.stack
    | _ => beginMember m.stack token
  | .colon =>
    match token with
    | .colon => some ⟨m.stack, .value⟩
    | _ => none
  | .separator => goOn m.stack token
  | .nothing _ => none

/-- The tree that has been read, if it is complete. -/
def tree? (m : Machine) : Option Tree :=
  match m.expect with
  | .nothing tree => some tree
  | _ => none

/-- Reads the rest of a text. -/
def run (m : Machine) (s : Bytes) : Option Tree :=
  match _h : nextToken s with
  | .finished => m.tree?
  | .malformed => none
  | .token token rest =>
    match m.step token with
    | some m => m.run rest
    | none => none
termination_by s.length
decreasing_by
  exact length_lt_of_nextToken ‹nextToken s = .token token rest›

end Machine

namespace Tree

/-- The tree of a text. -/
def ofBytes? (s : Bytes) : Option Tree :=
  Machine.start.run s

/-- The text of a string. -/
def text? : Tree → Option String
  | .text raw => raw.text?
  | _ => none

end Tree

end Json

end EventFlow
