import EventFlow.Toml.Number

/-!
# Reading a configuration file

The tables of a whole file. Every line is empty, a comment, a header or a key with its value; one
line that is neither, or that adds what may not be added, spoils the file.

Arrays and tables in braces may be nested 79 deep. An array may be spread over lines and end with a
comma, a table in braces may not.

## Main definitions

* `Toml.readValue`: a value.
* `Toml.ofText?`: the entries of a file.
-/

namespace EventFlow

namespace Toml

/-- How deep arrays and tables in braces may be nested. -/
def maxDepth : Nat := 79

/-- Reads a word that stands for a value. -/
def readWord (word : List Char) (value : Toml) (s : List Char) : Option (Toml × List Char) :=
  if word.isPrefixOf s then some (value, s.drop word.length) else none

/-- Reads a value that holds no others. -/
def readScalar (s : List Char) : Option (Toml × List Char) :=
  match s with
  | [] => none
  | c :: _ =>
    if c = '\x22' || c = '\x27' then (readText s).map fun (chars, rest) => (.text chars, rest)
    else if c = 't' then readWord ['t', 'r', 'u', 'e'] (.bool true) s
    else if c = 'f' then readWord ['f', 'a', 'l', 's', 'e'] (.bool false) s
    else if c = 'i' || c = 'n' then readNumber s
    else if c.isDigit || c = '+' || c = '-' then readMomentOrNumber s
    else none

mutual

/-- Reads a value in which containers may be nested so deep. -/
def readValue (depth : Nat) (s : List Char) : Option (Toml × List Char) :=
  match depth, s with
  | 0, '[' :: _ => none
  | 0, '\x7b' :: _ => none
  | depth + 1, '[' :: rest =>
    (readItems depth rest.length rest).map fun (items, rest) => (.array items, rest)
  | depth + 1, '\x7b' :: rest =>
    -- An array may end with a comma, a table in braces may not.
    match skipSpace rest with
    | '\x7d' :: rest => some (.table .braces [], rest)
    | rest => (readPairs depth rest.length [] rest).map fun (entries, rest) =>
      (.table .braces entries, rest)
  | _, s => readScalar s
termination_by (depth, 0)

/-- Reads the items of an array up to its end, at most one for each step. -/
def readItems (depth steps : Nat) (s : List Char) : Option (List Toml × List Char) :=
  match steps, skipLayout false s with
  | _, ']' :: rest => some ([], rest)
  | 0, _ => none
  | steps + 1, s =>
    match readValue depth s with
    | none => none
    | some (item, rest) =>
      match skipLayout false rest with
      | ',' :: rest => (readItems depth steps rest).map fun (items, rest) => (item :: items, rest)
      | ']' :: rest => some ([item], rest)
      | _ => none
termination_by (depth, steps + 1)

/-- Reads the entries of a table in braces up to its end, at most one for each step. -/
def readPairs (depth steps : Nat) (entries : Entries) (s : List Char) :
    Option (Entries × List Char) :=
  match steps with
  | 0 => none
  | steps + 1 =>
    match readKey s with
    | some (path, name, '=' :: rest) =>
      match readValue depth (skipSpace rest) with
      | none => none
      | some (value, rest) =>
        match insert path name value entries with
        | none => none
        | some entries =>
          match skipSpace rest with
          | ',' :: rest => readPairs depth steps entries rest
          | '\x7d' :: rest => some (entries, rest)
          | _ => none
    | _ => none
termination_by (depth, steps + 1)

end

/-- Reads a header from after its brackets, up to the closing ones. -/
def readHeader (closing : List Char) (s : List Char) : Option (List Name × List Char) :=
  match readKey s with
  | some (path, name, rest) =>
    if closing.isPrefixOf rest then
      (endLine? (rest.drop closing.length)).map fun rest => (path ++ [name], rest)
    else none
  | none => none

/-- Reads a key with its value. -/
def readPair (s : List Char) : Option (List Name × Name × Toml × List Char) :=
  match readKey s with
  | some (path, name, '=' :: rest) =>
    match readValue maxDepth (skipSpace rest) with
    | some (value, rest) => (endLine? rest).map fun rest => (path, name, value, rest)
    | none => none
  | _ => none

/-- Reads one line and adds it to a document. -/
def readLine (d : Document) (s : List Char) : Option (Document × List Char) :=
  match skipSpace s with
  | '[' :: '[' :: rest => do
    let (path, rest) ← readHeader [']', ']'] rest
    let d ← d.openRepeated path
    return (d, rest)
  | '[' :: rest => do
    let (path, rest) ← readHeader [']'] rest
    let d ← d.openTable path
    return (d, rest)
  | s =>
    match endLine? s with
    | some rest => some (d, rest)
    | none => do
      let (path, name, value, rest) ← readPair s
      let d ← d.put path name value
      return (d, rest)

/-- Reads lines until the text ends, at most one for each step. -/
def readLines (steps : Nat) (d : Document) (s : List Char) : Option Document :=
  match steps, s with
  | _, [] => some d
  | 0, _ => none
  | steps + 1, s =>
    match readLine d s with
    | some (d, rest) => readLines steps d rest
    | none => none

/-- A text without the byte order mark it may begin with. -/
def dropMark : List Char → List Char
  | c :: rest => if c.toNat = 0xfeff then rest else c :: rest
  | [] => []

/-- The entries of a file. -/
def ofText? (text : String) : Option Entries :=
  let s := dropMark text.toList
  -- Every line takes at least one character, so the length bounds the number of steps.
  (readLines s.length .empty s).bind Document.close

end Toml

end EventFlow
