import EventFlow.Text.Blank

/-!
# TOML text

White space, comments, strings and keys of a configuration file.

There are four forms of strings. One between double quotes has escapes, one between single quotes
has none, and either can be written between three quotes instead of one to span lines; then a line
end right after the opening quotes does not count, one or two quotes may stand inside or before the
closing ones, and, where there are escapes, a backslash at the end of a line joins the lines.

## Main definitions

* `Toml.skipLayout`: what follows white space, line ends and comments.
* `Toml.readText`: a string.
* `Toml.readKey`: a dotted key.
-/

namespace EventFlow

namespace Toml

/-- What a reader made of the beginning of a text, and what follows. -/
abbrev Read (α : Type) := Option (α × List Char)

/-- White space within a line. -/
def isSpace (c : Char) : Bool := c == ' ' || c == '\t'

/-- What follows white space within a line. -/
def skipSpace (s : List Char) : List Char := s.dropWhile isSpace

/-- Whether a character may stand in a comment or string: any but a control, tabs excepted. -/
def isPlain (c : Char) : Bool :=
  c == '\t' || (0x20 ≤ c.toNat && c.toNat != 0x7f)

/-- What follows a line end. -/
def newline? : List Char → Option (List Char)
  | '\n' :: rest => some rest
  | '\r' :: '\n' :: rest => some rest
  | _ => none

/-- What follows a comment, if there is one. -/
def skipComment : List Char → List Char
  | '#' :: rest => rest.dropWhile isPlain
  | s => s

/-- What follows white space, a comment and the end of a line; the text may also end there. -/
def endLine? (s : List Char) : Option (List Char) :=
  match skipComment (skipSpace s) with
  | [] => some []
  | rest => newline? rest

/-- What follows white space, line ends and comments. Inside a comment only its end matters. -/
def skipLayout (inComment : Bool) : List Char → List Char
  | [] => []
  | '\n' :: rest => skipLayout false rest
  | '\r' :: '\n' :: rest => skipLayout false rest
  | c :: rest =>
    if inComment then (if isPlain c then skipLayout true rest else c :: rest)
    else if isSpace c then skipLayout false rest
    else if c = '#' then skipLayout true rest
    else c :: rest

/-- The value of a hexadecimal digit. -/
def hexValue? (c : Char) : Option Nat :=
  let n := c.toNat
  if 0x30 ≤ n && n ≤ 0x39 then some (n - 0x30)
  else if 0x41 ≤ n && n ≤ 0x46 then some (n - 0x41 + 10)
  else if 0x61 ≤ n && n ≤ 0x66 then some (n - 0x61 + 10)
  else none

/-- The character of an escaped code point. -/
def codePoint? (digits : List Char) : Option Char :=
  match digits.foldlM (fun n c => (hexValue? c).map fun d => 16 * n + d) 0 with
  | some n => if h : n.isValidChar then some (Char.ofNatAux n h) else none
  | none => none

/-- The character of a one-letter escape. -/
def letterEscape? (c : Char) : Option Char :=
  match c with
  | 'b' => some '\x08'
  | 't' => some '\t'
  | 'n' => some '\n'
  | 'f' => some '\x0c'
  | 'r' => some '\r'
  | '\x22' => some '\x22'
  | '\\' => some '\\'
  | _ => none

/-- Puts a character in front of what was read. -/
def push (c : Char) (read : Read (List Char)) : Read (List Char) :=
  read.map fun (s, rest) => (c :: s, rest)

/-- Reads a string in double quotes from after the opening one. -/
def readBasic : List Char → Read (List Char)
  | [] => none
  | '\x22' :: rest => some ([], rest)
  | '\\' :: 'u' :: a :: b :: c :: d :: rest =>
    match codePoint? [a, b, c, d] with
    | some x => push x (readBasic rest)
    | none => none
  | '\\' :: 'U' :: a :: b :: c :: d :: e :: f :: g :: h :: rest =>
    match codePoint? [a, b, c, d, e, f, g, h] with
    | some x => push x (readBasic rest)
    | none => none
  | '\\' :: c :: rest =>
    match letterEscape? c with
    | some x => push x (readBasic rest)
    | none => none
  | c :: rest => if isPlain c && c != '\\' then push c (readBasic rest) else none

/-- Reads a string in single quotes from after the opening one. -/
def readLiteral : List Char → Read (List Char)
  | [] => none
  | '\x27' :: rest => some ([], rest)
  | c :: rest => if isPlain c then push c (readLiteral rest) else none

/-- Whether nothing but white space stands before the end of the line. -/
def endsLine (s : List Char) : Bool :=
  (newline? (skipSpace s)).isSome

/-- Reads a string in three double quotes from after the opening ones. While lines are being joined
    white space and line ends are skipped. -/
def readLongBasic (joining : Bool) : List Char → Read (List Char)
  | [] => none
  -- Up to two quotes in front of the closing three belong to the text.
  | '\x22' :: '\x22' :: '\x22' :: '\x22' :: '\x22' :: rest => some (['\x22', '\x22'], rest)
  | '\x22' :: '\x22' :: '\x22' :: '\x22' :: rest => some (['\x22'], rest)
  | '\x22' :: '\x22' :: '\x22' :: rest => some ([], rest)
  | '\r' :: '\n' :: rest =>
    if joining then readLongBasic true rest else push '\n' (readLongBasic false rest)
  | '\n' :: rest =>
    if joining then readLongBasic true rest else push '\n' (readLongBasic false rest)
  | '\\' :: 'u' :: a :: b :: c :: d :: rest =>
    match codePoint? [a, b, c, d] with
    | some x => push x (readLongBasic false rest)
    | none => none
  | '\\' :: 'U' :: a :: b :: c :: d :: e :: f :: g :: h :: rest =>
    match codePoint? [a, b, c, d, e, f, g, h] with
    | some x => push x (readLongBasic false rest)
    | none => none
  | '\\' :: c :: rest =>
    -- A backslash at the end of a line joins it with the next one that is not blank.
    if endsLine (c :: rest) then readLongBasic true (c :: rest)
    else
      match letterEscape? c with
      | some x => push x (readLongBasic false rest)
      | none => none
  | c :: rest =>
    if joining && isSpace c then readLongBasic true rest
    else if isPlain c && c != '\\' then push c (readLongBasic false rest)
    else none

/-- Reads a string in three single quotes from after the opening ones. -/
def readLongLiteral : List Char → Read (List Char)
  | [] => none
  | '\x27' :: '\x27' :: '\x27' :: '\x27' :: '\x27' :: rest => some (['\x27', '\x27'], rest)
  | '\x27' :: '\x27' :: '\x27' :: '\x27' :: rest => some (['\x27'], rest)
  | '\x27' :: '\x27' :: '\x27' :: rest => some ([], rest)
  | '\r' :: '\n' :: rest => push '\n' (readLongLiteral rest)
  | c :: rest => if isPlain c || c == '\n' then push c (readLongLiteral rest) else none

/-- A text without the line end it may begin with. -/
def dropNewline (s : List Char) : List Char := (newline? s).getD s

/-- Reads a string of any form. -/
def readText : List Char → Read (List Char)
  | '\x22' :: '\x22' :: '\x22' :: rest => readLongBasic false (dropNewline rest)
  | '\x22' :: rest => readBasic rest
  | '\x27' :: '\x27' :: '\x27' :: rest => readLongLiteral (dropNewline rest)
  | '\x27' :: rest => readLiteral rest
  | _ => none

/-- Whether a character may stand in a key without quotes. -/
def isBareChar (c : Char) : Bool :=
  c.isAlphanum || c == '_' || c == '-'

/-- Reads one part of a key. -/
def readKeyPart : List Char → Read (List Char)
  | [] => none
  | '\x22' :: rest => readBasic rest
  | '\x27' :: rest => readLiteral rest
  | c :: rest =>
    if isBareChar c then some (c :: rest.takeWhile isBareChar, rest.dropWhile isBareChar) else none

/-- How many parts a key may have. -/
def maxKeyParts : Nat := 79

/-- Reads the parts of a key, at most so many, with points between them. -/
def readKeyParts : Nat → List Char → Read (List (List Char))
  | 0, _ => none
  | limit + 1, s =>
    match readKeyPart (skipSpace s) with
    | none => none
    | some (part, rest) =>
      match skipSpace rest with
      | '.' :: more => (readKeyParts limit more).map fun (parts, rest) => (part :: parts, rest)
      | rest => some ([part], rest)

/-- Reads a key: the names of the tables it passes through, its own name, and what follows it and
    the white space behind it. -/
def readKey (s : List Char) : Option (List (List Char) × List Char × List Char) :=
  match readKeyParts maxKeyParts s with
  | none => none
  | some (parts, rest) =>
    match parts.getLast? with
    | some name => some (parts.dropLast, name, rest)
    | none => none

end Toml

end EventFlow
