import EventFlow.Json.Tree

/-!
# JSON records

How a record with named fields is read from a JSON text.

A record is an object or an array. In an object the fields may come in any order and members of
other names are ignored whatever they hold, but a field that occurs twice is an error. In an array
the fields come in their own order; fields at the end may be left out, further items may not be
added.

## Main definitions

* `Json.Tree.fields?`: what a text holds for each field of a record.
* `Json.required`, `Json.optional`: a field that must be there, a field that may be missing or
  null.
-/

namespace EventFlow

namespace Json

/-- The only member of a name, if there is one; an error if there are several. -/
def soleMember? (name : String) (members : List (String × Tree)) : Option (Option Tree) :=
  match members.filter fun member => member.1 = name with
  | [] => some none
  | [(_, tree)] => some (some tree)
  | _ => none

/-- The names of the members of an object as texts. -/
def namedMembers? (members : List (RawText × Tree)) : Option (List (String × Tree)) :=
  members.mapM fun (raw, tree) => raw.text?.map fun name => (name, tree)

namespace Tree

/-- What a tree holds for each of the named fields of a record. -/
def fields? (names : List String) : Tree → Option (List (Option Tree))
  | .array items =>
    if items.length ≤ names.length then
      some (items.map some ++ List.replicate (names.length - items.length) none)
    else none
  | .object members =>
    (namedMembers? members).bind fun members => names.mapM fun name => soleMember? name members
  | _ => none

/-- The items of an array, each read by a decoder. -/
def items? {α : Type} (decode : Tree → Option α) : Tree → Option (List α)
  | .array items => items.mapM decode
  | _ => none

end Tree

/-- A field that must be there. -/
def required {α : Type} (decode : Tree → Option α) (field : Option Tree) : Option α :=
  field.bind decode

/-- A field that may be missing or null. -/
def optional {α : Type} (decode : Tree → Option α) : Option Tree → Option (Option α)
  | none => some none
  | some .null => some none
  | some tree => (decode tree).map some

/-- A field that may be missing, but not null. -/
def defaulting {α : Type} (decode : Tree → Option α) (value : α) : Option Tree → Option α
  | none => some value
  | some tree => decode tree

end Json

end EventFlow
