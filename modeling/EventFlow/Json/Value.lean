import EventFlow.Json.Number
import EventFlow.Json.Tree

/-!
# JSON values

What a JSON text means to someone who reads all of it, and the compact text of a value.

As a value, an object has each name once, the last of equal names counting, and its members are
ordered by name. Containers may be nested 127 deep. A record that is written lists its members in
its own order, so the members of a value are a list and not a finite map.

## Main definitions

* `Json`: a value.
* `Json.ofTree?`, `Json.ofBytes?`: the value of a text.
* `Json.write`: the compact text of a value.
-/

namespace EventFlow

/-- A JSON value. -/
inductive Json where
  | null
  | bool (value : Bool)
  | number (n : Json.Number)
  | text (s : String)
  | array (items : List Json)
  | object (members : List (String × Json))
  deriving Repr, Inhabited

namespace Json

/-- Puts a member into a list that is ordered by name, in place of one of the same name. -/
def insertMember (name : String) (value : Json) : List (String × Json) → List (String × Json)
  | [] => [(name, value)]
  | (other, old) :: rest =>
    if name < other then (name, value) :: (other, old) :: rest
    else if name = other then (name, value) :: rest
    else (other, old) :: insertMember name value rest

mutual

/-- The value of a tree whose containers are nested less deep than `depth`. -/
def ofTree? (depth : Nat) : Tree → Option Json
  | .null => some .null
  | .bool value => some (.bool value)
  | .number numeral => numeral.number?.map .number
  | .text raw => raw.text?.map .text
  | .array items => if depth ≤ 1 then none else (ofItems? (depth - 1) items).map .array
  | .object members =>
    if depth ≤ 1 then none else (ofMembers? (depth - 1) members []).map .object

/-- The values of the items of an array. -/
def ofItems? (depth : Nat) : List Tree → Option (List Json)
  | [] => some []
  | item :: items => do
    let value ← ofTree? depth item
    let values ← ofItems? depth items
    return value :: values

/-- The members of an object, put into those that came before. -/
def ofMembers? (depth : Nat) : List (RawText × Tree) → List (String × Json) →
    Option (List (String × Json))
  | [], before => some before
  | (raw, tree) :: members, before => do
    let name ← raw.text?
    let value ← ofTree? depth tree
    ofMembers? depth members (insertMember name value before)

end

/-- The value of a text. -/
def ofBytes? (s : Bytes) : Option Json :=
  (Tree.ofBytes? s).bind (ofTree? 128)

/-- A hexadecimal digit, in lower case. -/
def hexDigit (n : Nat) : Char :=
  Nat.digitChar (n % 16)

/-- What one character of a string is written as. -/
def escapeChar (c : Char) : List Char :=
  if c = '\x22' || c = '\\' then ['\\', c]
  else if c = '\x08' then ['\\', 'b']
  else if c = '\t' then ['\\', 't']
  else if c = '\n' then ['\\', 'n']
  else if c = '\x0c' then ['\\', 'f']
  else if c = '\r' then ['\\', 'r']
  else if c.toNat < 0x20 then
    ['\\', 'u', '0', '0', hexDigit (c.toNat / 16), hexDigit c.toNat]
  else [c]

/-- A string between quotes. -/
def writeText (s : String) : List Char :=
  '\x22' :: (s.toList.flatMap escapeChar ++ ['\x22'])

mutual

/-- The compact text of a value. -/
def write : Json → List Char
  | .null => ['n', 'u', 'l', 'l']
  | .bool true => ['t', 'r', 'u', 'e']
  | .bool false => ['f', 'a', 'l', 's', 'e']
  | .number n => n.text
  | .text s => writeText s
  | .array items => '[' :: (writeItems items ++ [']'])
  | .object members => '\x7b' :: (writeMembers members ++ ['\x7d'])

/-- The items of an array, separated by commas. -/
def writeItems : List Json → List Char
  | [] => []
  | [item] => write item
  | item :: items => write item ++ ',' :: writeItems items

/-- The members of an object, separated by commas. -/
def writeMembers : List (String × Json) → List Char
  | [] => []
  | [(name, value)] => writeText name ++ ':' :: write value
  | (name, value) :: members => writeText name ++ ':' :: write value ++ ',' :: writeMembers members

end

/-- The compact text of a value as a string. -/
def toText (value : Json) : String :=
  String.ofList value.write

/-- The compact text of a value as bytes. -/
def toBytes (value : Json) : Bytes :=
  Bytes.ofText value.toText

end Json

end EventFlow
