import EventFlow.Config.Environment
import EventFlow.Log

/-!
# Filtering the log

Which remarks are kept.

A filter is a list of directives with commas between them. A directive that is a level lets remarks
through that matter at least as much; one that names a part of the program, or a field in brackets,
is about remarks of that part and of all parts whose names begin like it, with that field. The most
specific directive that is about a remark decides on it. A remark that none is about is dropped.

Directives can also name a span, or ask for the value of a field. As nothing here runs in a span,
these decide on nothing, but a filter of no other directives is not an empty one. An empty filter
keeps errors, and a text that is no filter counts as the standard one.

## Main definitions

* `Log.Directive`, `Log.Filter`: a filter and its parts.
* `Log.Directive.ofText?`, `Log.Filter.ofText?`: a filter that is read.
* `Log.Filter.keeps`: whether a remark is kept.
-/

namespace EventFlow

namespace Log

/-- A part of a filter. -/
structure Directive where
  /-- What the names of parts begin with. -/
  part : Option String
  /-- The fields that a remark must have. -/
  fields : List String
  /-- Whether it is about spans or values, and so decides on nothing here. -/
  isVoid : Bool
  /-- The least serious level that is let through; none lets nothing through. -/
  level : Option Level
  deriving DecidableEq, Repr, Inhabited

namespace Directive

/-- The directive that is about every remark. -/
def general (level : Option Level) : Directive := ⟨none, [], false, level⟩

/-- The level of a word, `off` being no level. -/
def levelOfWord? (s : List Char) : Option (Option Level) :=
  match String.ofList (s.map Char.toLower) with
  | "" => some (some .error)
  | "off" => some none
  | "error" => some (some .error)
  | "warn" => some (some .warn)
  | "info" => some (some .info)
  | "debug" => some (some .debug)
  | "trace" => some (some .trace)
  | _ => none

/-- The level of a number. -/
def levelOfNumber? : Nat → Option (Option Level)
  | 0 => some none
  | 1 => some (some .error)
  | 2 => some (some .warn)
  | 3 => some (some .info)
  | 4 => some (some .debug)
  | 5 => some (some .trace)
  | _ => none

/-- The level that a text names, by a word or a number. -/
def level? (s : List Char) : Option (Option Level) :=
  match (Settings.number? (String.ofList s)).bind fun n => levelOfNumber? n.toNat with
  | some level => some level
  | none => levelOfWord? s

/-- The level behind the equals sign of a directive; everything if there is none. -/
def levelBehind? (s : List Char) : Option (Option Level) :=
  if s.isEmpty then some (some .trace) else level? s

/-- The directive of a text without brackets and equals sign. -/
def ofWord (s : List Char) : Directive :=
  match level? s with
  | some level => general level
  | none => { general (some .trace) with part := some (String.ofList s) }

/-- The field in braces, and whether a value is asked for. -/
def field? (s : List Char) : Option (String × Bool) :=
  if s.isEmpty then none
  else some (String.ofList (s.takeWhile (· != '=')), s.contains '=')

/-- The span and the field in brackets, and what is behind these. -/
def brackets? (d : Directive) (s : List Char) : Option (Directive × List Char) :=
  let name := s.takeWhile fun c => c != ']' && c != '\x7b'
  match s.dropWhile fun c => c != ']' && c != '\x7b' with
  | ']' :: rest => some ({ d with isVoid := true }, rest)
  | '\x7b' :: rest =>
    match rest.dropWhile (· != '\x7d') with
    | '\x7d' :: ']' :: behind =>
      (field? (rest.takeWhile (· != '\x7d'))).map fun (field, hasValue) =>
        ({ d with fields := [field], isVoid := hasValue || !name.isEmpty }, behind)
    | _ => none
  | _ => none

/-- Whether a directive can begin with a character. -/
def isFirst (c : Char) : Bool :=
  c == '[' || c == '-' || c == ':' || c == '_' || c.isAlphanum || 128 ≤ c.toNat

/-- What a directive says behind its brackets. -/
def ofTail? (d : Directive) : List Char → Option Directive
  | [] => some { d with level := some .trace }
  | '=' :: rest => (levelBehind? rest).map fun level => { d with level }
  | _ => none

/-- The directive of a text. -/
def ofText? (s : List Char) : Option Directive :=
  let s := Text.strip Text.isBlank s
  if (s.head?.map isFirst).getD false then
    let name := s.takeWhile fun c => c != '=' && c != '['
    let part := if name.isEmpty then none else some (String.ofList name)
    let d : Directive := { general none with part }
    match s.dropWhile fun c => c != '=' && c != '[' with
    | '[' :: rest => (brackets? d rest).bind fun (d, rest) => ofTail? d rest
    | [] => some (ofWord s)
    | rest => ofTail? d rest
  else none

/-- Whether a directive is about a remark. -/
def isAbout (d : Directive) (remark : Remark) : Bool :=
  !d.isVoid && (d.part.map fun part => part.toList.isPrefixOf remark.part.toList).getD true &&
    d.fields.all remark.fields.contains

/-- How specific a directive is: by the length of the name, and then by the number of fields. -/
def weight (d : Directive) : Nat × Nat :=
  ((d.part.map fun part => part.utf8ByteSize + 1).getD 0, d.fields.length)

/-- Whether a directive is less specific than another one. -/
def isBelow (d e : Directive) : Bool :=
  d.weight.1 < e.weight.1 || (d.weight.1 == e.weight.1 && d.weight.2 ≤ e.weight.2)

/-- Whether a directive lets a level through. -/
def admits (d : Directive) (level : Level) : Bool :=
  match d.level with
  | some least => level.rank ≤ least.rank
  | none => false

end Directive

/-- Which remarks are kept. -/
structure Filter where
  directives : List Directive
  deriving DecidableEq, Repr, Inhabited

namespace Filter

/-- The filter used unless another one is given: the program's own remarks up to debugging, and
    others up to information. -/
def standard : Filter :=
  ⟨[.general (some .info), { Directive.general (some .debug) with part := some "raven_core" },
    { Directive.general (some .debug) with part := some "raven_cli" }]⟩

/-- The filter of a text. -/
def ofText? (s : String) : Option Filter :=
  let parts := (Text.splitAt ',' s.toList).filter (!·.isEmpty)
  (parts.mapM Directive.ofText?).map fun directives =>
    if directives.isEmpty then ⟨[.general (some .error)]⟩ else ⟨directives⟩

/-- The filter that a variable gives, or the standard one. -/
def ofVariable (value : Option String) : Filter :=
  (value.bind ofText?).getD standard

/-- The directive that decides on a remark: the most specific one, and of equal ones the last. -/
def ruling? (filter : Filter) (remark : Remark) : Option Directive :=
  (filter.directives.filter (·.isAbout remark)).foldl
    (fun best d =>
      match best with
      | none => some d
      | some e => if e.isBelow d then some d else some e)
    none

/-- Whether a remark is kept. -/
def keeps (filter : Filter) (remark : Remark) : Bool :=
  match filter.ruling? remark with
  | some d => d.admits remark.level
  | none => false

end Filter

end Log

end EventFlow
