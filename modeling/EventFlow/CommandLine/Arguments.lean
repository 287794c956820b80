import EventFlow.Config
import EventFlow.Message

/-!
# Command line arguments

What the arguments of the command `raven` ask for.

The arguments of a command are read from left to right. Options begin with two hyphens and may stand
anywhere among the positional arguments; the value of an option is joined with an equals sign or
follows as an argument of its own, which then must not begin with a hyphen, unless it is nothing
else. After a bare `--` all arguments are positional.

The value of an option is checked when the next argument that is understood comes, or at the end;
therefore an argument that is not understood is reported before a bad value right in front of it.
Only metadata may be given more than once. The configuration file may be named before and after the
command, and the later one counts.

## Main definitions

* `Command`, `Arguments`: what is asked for.
* `ArgumentError`: why arguments ask for nothing.
* `CommandLine.read`: what one level of arguments says.
* `Arguments.ofList`: what arguments ask for.
-/

namespace EventFlow

/-- What is to be done. -/
inductive Command where
  /-- Claim a unit of work, and perhaps fetch, print and acknowledge it. -/
  | consume (ack filter : Bool) (timeout : Option Span)
  /-- Print an event. -/
  | get (eventId : String) (ackId : Option String)
  /-- Acknowledge a claimed unit of work. -/
  | ack (ackId eventId : String) (content : Option String) (metadata : List Metadata)
    (filter : Bool)
  /-- Publish an event. -/
  | produce (content : String) (metadata : List Metadata)
  /-- Show the configuration. -/
  | config
  deriving DecidableEq, Inhabited

/-- What the arguments ask for. -/
structure Arguments where
  /-- The configuration file, if one is named. -/
  config : Option String
  command : Command
  deriving DecidableEq, Inhabited

/-- Why arguments ask for nothing. -/
inductive ArgumentError where
  /-- They break the rules. -/
  | usage
  /-- They ask for help. -/
  | help
  /-- The value of an option cannot be used. -/
  | value (message : String)
  deriving DecidableEq, Inhabited

namespace ArgumentError

/-- The exit code of the command. -/
def exitCode : ArgumentError → Nat
  | help => 0
  | _ => 2

end ArgumentError

namespace CommandLine

/-- The metadata entry that a text gives, with an equals sign behind the key. -/
def metadata? (text : String) : Option Metadata :=
  let key := text.toList.takeWhile (· != '=')
  match text.toList.dropWhile (· != '=') with
  | [] => none
  | _ :: value => if key.isEmpty then none else some ⟨String.ofList key, String.ofList value⟩

/-- What an option is given as. -/
inductive Shape where
  /-- Its name alone. -/
  | flag
  /-- Its name and a text. -/
  | text
  /-- Its name and a path, which must not be empty. -/
  | path
  /-- Its name and a duration. -/
  | duration
  /-- Its name and a metadata entry, any number of times. -/
  | metadata
  deriving DecidableEq, Repr, Inhabited

namespace Shape

/-- Whether an option can be given more than once. -/
def isRepeatable (shape : Shape) : Bool := shape == metadata

/-- Refuses a value that cannot be used. -/
def check : Shape → String → Except ArgumentError Unit
  | flag, _ => .ok ()
  | text, _ => .ok ()
  | path, value => if value.isEmpty then .error .usage else .ok ()
  | duration, value =>
    match parseDuration value with
    | .ok _ => .ok ()
    | .error e => .error (.value e.message)
  | metadata, value =>
    match metadata? value with
    | some _ => .ok ()
    | none => .error (.value ("expected KEY=VALUE, got " ++ Text.quoted value))

end Shape

/-- What can be given at one level of the arguments. -/
structure Level where
  /-- The options, by name. -/
  options : List (String × Shape)
  /-- The number of positional arguments. -/
  positionals : Nat
  /-- The commands. -/
  commands : List String

/-- What was given at one level. -/
structure Given where
  /-- The options and their values, in order; the value of a flag is empty. -/
  options : List (String × String)
  positionals : List String
  /-- The option that was read last, with its value if that has been read. -/
  pending : Option (String × Shape × Option String)
  deriving Inhabited

namespace Given

/-- Nothing given. -/
def empty : Given := ⟨[], [], none⟩

/-- Whether the next argument is the value of an option. -/
def awaitsValue (g : Given) : Bool :=
  match g.pending with
  | some (_, _, none) => true
  | _ => false

/-- Adds an option with its value. -/
def accept (g : Given) (name : String) (shape : Shape) (value : String) :
    Except ArgumentError Given :=
  if !shape.isRepeatable && g.options.any (·.1 == name) then .error .usage
  else
    match shape.check value with
    | .error e => .error e
    | .ok () => .ok { g with options := g.options ++ [(name, value)] }

/-- Adds the option that was read last. -/
def resolve (g : Given) : Except ArgumentError Given :=
  match g.pending with
  | none => .ok g
  | some (_, _, none) => .error .usage
  | some (name, shape, some value) => { g with pending := none }.accept name shape value

/-- Adds an option that is complete. -/
def addOption (g : Given) (name : String) (shape : Shape) (value : String) :
    Except ArgumentError Given :=
  match g.resolve with
  | .error e => .error e
  | .ok g => g.accept name shape value

/-- Begins an option whose value follows. -/
def beginOption (g : Given) (name : String) (shape : Shape) : Except ArgumentError Given :=
  match g.resolve with
  | .error e => .error e
  | .ok g => .ok { g with pending := some (name, shape, none) }

/-- Adds the value that an option waits for. -/
def addValue (g : Given) (value : String) : Given :=
  { g with pending := g.pending.map fun (name, shape, _) => (name, shape, some value) }

/-- Asks for help. -/
def askHelp (g : Given) : ArgumentError :=
  match g.resolve with
  | .error e => e
  | .ok _ => .help

/-- Adds a positional argument, if one more is expected. -/
def addPositional (g : Given) (level : Level) (value : String) : Except ArgumentError Given :=
  if g.positionals.length < level.positionals then
    match g.resolve with
    | .error e => .error e
    | .ok g => .ok { g with positionals := g.positionals ++ [value] }
  else .error .usage

/-- The value of an option. -/
def value? (g : Given) (name : String) : Option String :=
  (g.options.find? (·.1 == name)).map (·.2)

/-- The values of an option that can be repeated. -/
def values (g : Given) (name : String) : List String :=
  (g.options.filter (·.1 == name)).map (·.2)

/-- Whether an option was given. -/
def has (g : Given) (name : String) : Bool :=
  g.options.any (·.1 == name)

end Given

/-- Adds an argument that begins with two hyphens and goes on like this. -/
def readLong (level : Level) (g : Given) (s : List Char) : Except ArgumentError Given :=
  let name := String.ofList (s.takeWhile (· != '='))
  let joined := match s.dropWhile (· != '=') with
    | [] => none
    | _ :: value => some (String.ofList value)
  match level.options.find? (·.1 == name), joined with
  | some (_, .flag), some _ => .error .usage
  | some (_, .flag), none => g.addOption name .flag ""
  | some (_, shape), some value => g.addOption name shape value
  | some (_, shape), none => g.beginOption name shape
  | none, some _ => .error .usage
  | none, none => if name = "help" then .error g.askHelp else .error .usage

/-- What one argument is, by how it begins. -/
inductive Form where
  /-- The bare `--`. -/
  | divider
  /-- Two hyphens, and this. -/
  | long (rest : List Char)
  /-- One hyphen, and this. -/
  | short (first : Char)
  /-- Anything else, the bare hyphen included. -/
  | plain
  deriving DecidableEq, Repr, Inhabited

/-- What one argument is. -/
def Form.of (argument : String) : Form :=
  match argument.toList with
  | ['-', '-'] => divider
  | '-' :: '-' :: rest => long rest
  | '-' :: c :: _ => short c
  | _ => plain

/-- Reads the arguments of one level, up to a command if there are any: what was given, and the
    command with the arguments that follow it. -/
def read (level : Level) (onlyPositionals : Bool) (g : Given) :
    List String → Except ArgumentError (Given × Option (String × List String))
  | [] => .ok (g, none)
  | argument :: rest =>
    let positional : Except ArgumentError Given := g.addPositional level argument
    -- Behind the divider nothing is an option or a command any more.
    if onlyPositionals then
      match positional with
      | .error e => .error e
      | .ok g => read level true g rest
    else if !g.awaitsValue && level.commands.contains argument then
      .ok (g, some (argument, rest))
    else
      match Form.of argument with
      | .divider => read level true g rest
      | .long s =>
        match readLong level g s with
        | .error e => .error e
        | .ok g => read level false g rest
      | .short c => .error (if c = 'h' then g.askHelp else .usage)
      -- Only a text that looks like no option can be the value of the option before it.
      | .plain =>
        if g.awaitsValue then read level false (g.addValue argument) rest
        else
          match positional with
          | .error e => .error e
          | .ok g => read level false g rest

/-- What can be given before the command. -/
def outer : Level where
  options := [("config", .path)]
  positionals := 0
  commands := ["consume", "get", "ack", "produce", "config", "help"]

/-- What can be given behind a command. -/
def inner (command : String) : Level :=
  let options : List (String × Shape) × Nat :=
    match command with
    | "consume" => ([("ack", .flag), ("filter", .flag), ("timeout", .duration)], 0)
    | "get" => ([("ack-id", .text)], 1)
    | "ack" => ([("content", .text), ("meta", .metadata), ("filter", .flag)], 2)
    | "produce" => ([("meta", .metadata)], 1)
    | _ => ([], 0)
  ⟨("config", .path) :: options.1, options.2, []⟩

/-- The command that was given with its options, if nothing is missing. -/
def command? (name : String) (g : Given) : Option Command :=
  let metadata := (g.values "meta").filterMap metadata?
  match name, g.positionals with
  | "consume", [] =>
    -- There is nothing to filter in a claim that is not acknowledged.
    if g.has "filter" && !g.has "ack" then none
    else some (.consume (g.has "ack") (g.has "filter") ((g.value? "timeout").bind Span.ofText?))
  | "get", [eventId] => some (.get eventId (g.value? "ack-id"))
  | "ack", [ackId, eventId] =>
    some (.ack ackId eventId (g.value? "content") metadata (g.has "filter"))
  | "produce", [content] => some (.produce content metadata)
  | "config", [] => some .config
  | _, _ => none

/-- Reads what follows a command. -/
def readCommand (name : String) (rest : List String) :
    Except ArgumentError (Command × Option String) := do
  let (g, _) ← read (inner name) false .empty rest
  let g ← g.resolve
  match command? name g with
  | some command => return (command, g.value? "config")
  | none => .error .usage

/-- Asks for help about a command, or about all of them. -/
def readHelp : List String → ArgumentError
  | [] => .help
  | [name] => if outer.commands.contains name then .help else .usage
  | _ => .usage

end CommandLine

namespace Arguments

/-- What arguments ask for. -/
def ofList (arguments : List String) : Except ArgumentError Arguments := do
  let (g, command) ← CommandLine.read CommandLine.outer false .empty arguments
  match command with
  | none => .error .usage
  | some ("help", rest) => .error (CommandLine.readHelp rest)
  | some (name, rest) =>
    let (command, config) ← CommandLine.readCommand name rest
    let g ← g.resolve
    -- The path behind the command counts for more than the one before it.
    return ⟨config.or (g.value? "config"), command⟩

end Arguments

end EventFlow
