import EventFlow.Binary64

/-!
# TOML tables

What a configuration file holds, as tables that are built up line by line.

A table remembers how it came to be, since that decides how it may grow: one written in braces is
closed, one made by dotted keys grows by dotted keys only, one with a header of its own grows below
that header only, and one that was merely passed through by the header of another may still get a
header of its own. A name can be given once in a table.

## Main definitions

* `Toml`: a value.
* `Toml.within`: a change to the table at a path.
* `Toml.insert`: a value put into a table under a dotted key.
* `Toml.Document`: a file that has been read in part.
-/

namespace EventFlow

namespace Toml

/-- How a table came to be. -/
inductive Origin where
  /-- It was written in braces. -/
  | braces
  /-- It has a header. -/
  | header
  /-- A header or a dotted key of something inside it passed through it. -/
  | passing
  /-- A dotted key made it. -/
  | dotted
  deriving DecidableEq, Repr, Inhabited

end Toml

/-- A value in a configuration file. -/
inductive Toml where
  | text (s : List Char)
  | integer (n : Int)
  | float (x : Binary64)
  | bool (b : Bool)
  /-- A date, a time or both. -/
  | moment
  | array (items : List Toml)
  | table (origin : Toml.Origin) (entries : List (List Char × Toml))
  /-- The tables of a repeated header, first one first. -/
  | tables (list : List (List (List Char × Toml)))
  deriving Repr, Inhabited

namespace Toml

/-- The name of an entry. -/
abbrev Name := List Char

/-- The entries of a table, in the order in which they were made. -/
abbrev Entries := List (Name × Toml)

/-- The entry of a name. -/
def find? (name : Name) (entries : Entries) : Option Toml :=
  (entries.find? fun entry => entry.1 = name).map (·.2)

/-- Puts a value in the place of the one of the same name. -/
def replace (name : Name) (value : Toml) (entries : Entries) : Entries :=
  entries.map fun entry => if entry.1 = name then (name, value) else entry

/-- Removes the entry of a name. -/
def remove (name : Name) (entries : Entries) : Entries :=
  entries.filter fun entry => entry.1 ≠ name

/-- Whether a table may be entered, by a dotted key or by a header. -/
def mayEnter (byKey : Bool) : Origin → Bool
  | .braces => false
  | .header => !byKey
  | .passing => true
  | .dotted => true

/-- Changes the table at a path, making the tables on the way that are missing. Of a repeated
    header the last table is meant. -/
def within (byKey : Bool) (change : Origin → Entries → Option Entries) :
    (path : List Name) → Origin → Entries → Option Entries
  | [], origin, entries => change origin entries
  | name :: path, _, entries =>
    match find? name entries with
    -- Missing tables remember how they were made, which decides who may enter them later.
    | none =>
      let origin := if byKey then Origin.dotted else .passing
      (within byKey change path origin []).map fun inner => entries ++ [(name, .table origin inner)]
    | some (.table origin inner) =>
      if mayEnter byKey origin then
        (within byKey change path origin inner).map fun inner =>
          replace name (.table origin inner) entries
      else none
    | some (.tables list) =>
      match list.getLast? with
      | none => none
      | some last =>
        (within byKey change path .header last).map fun inner =>
          replace name (.tables (list.dropLast ++ [inner])) entries
    | some _ => none

/-- Adds an entry under a name that is not taken. -/
def add (name : Name) (value : Toml) (entries : Entries) : Option Entries :=
  match find? name entries with
  | none => some (entries ++ [(name, value)])
  | some _ => none

/-- Puts a value into a table under a dotted key: the tables that the key passes through, and the
    name in the last of them. That one must be made by dotted keys. -/
def insert (path : List Name) (name : Name) (value : Toml) (entries : Entries) : Option Entries :=
  within true
    (fun origin inner =>
      -- A key with no dots adds to the table of the header, whatever made that table.
      if path.isEmpty || origin = .dotted then add name value inner else none)
    path .header entries

/-- A file that has been read in part. The table of the last header is kept apart until the next
    header. -/
structure Document where
  /-- The tables that are complete. -/
  root : Entries
  /-- The header of the table that is not. -/
  path : List Name
  /-- Whether that header can be repeated. -/
  repeated : Bool
  /-- The entries of the table that is not complete. -/
  current : Entries
  deriving Inhabited

namespace Document

/-- Nothing read yet. -/
def empty : Document := ⟨[], [], false, []⟩

/-- Adds a table to those of a repeated header. -/
def addRepeated (name : Name) (table : Entries) (entries : Entries) : Option Entries :=
  match find? name entries with
  | none => some (entries ++ [(name, .tables [table])])
  | some (.tables list) => some (replace name (.tables (list ++ [table])) entries)
  | some _ => none

/-- Puts the current table into its place. -/
def close (d : Document) : Option Entries :=
  match d.path.getLast? with
  | none => some d.current
  | some name =>
    let put : Origin → Entries → Option Entries := fun _ entries =>
      if d.repeated then addRepeated name d.current entries
      else add name (.table .header d.current) entries
    within false put d.path.dropLast .header d.root

/-- Whether a repeated header of a name may stand here. -/
def mayRepeat (name : Name) (entries : Entries) : Bool :=
  match find? name entries with
  | none => true
  | some (.tables _) => true
  | some _ => false

/-- Begins one more table of a repeated header. -/
def openRepeated (d : Document) (path : List Name) : Option Document :=
  match d.close, path.getLast? with
  | some root, some name =>
    let check : Origin → Entries → Option Entries := fun _ entries =>
      if mayRepeat name entries then some entries else none
    (within false check path.dropLast .header root).map fun root => ⟨root, path, true, []⟩
  | _, _ => none

/-- The entries that a table has before its header: those made in passing. -/
def takeOver (name : Name) (entries : Entries) : Option Entries :=
  match find? name entries with
  | none => some []
  | some (.table .passing inner) => some inner
  | some _ => none

/-- The entries of the table at a path, if it can be entered. -/
def entriesAt (path : List Name) (entries : Entries) : Option Entries :=
  match path with
  | [] => some entries
  | name :: path =>
    match find? name entries with
    | none => some []
    | some (.table _ inner) => entriesAt path inner
    | some (.tables list) => (list.getLast?).bind (entriesAt path)
    | some _ => none

/-- Begins a table with a header. -/
def openTable (d : Document) (path : List Name) : Option Document :=
  match d.close, path.getLast? with
  | some root, some name => do
    let parent ← entriesAt path.dropLast root
    let current ← takeOver name parent
    -- The table is built up apart and comes back to its parent when it is complete.
    let root ← within false (fun _ entries => some (remove name entries)) path.dropLast .header root
    return ⟨root, path, false, current⟩
  | _, _ => none

/-- Puts a value into the current table under a dotted key. -/
def put (d : Document) (path : List Name) (name : Name) (value : Toml) : Option Document :=
  (insert path name value d.current).map fun current => { d with current }

end Document

end Toml

end EventFlow
