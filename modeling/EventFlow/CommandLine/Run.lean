import EventFlow.CommandLine.Arguments
import EventFlow.CommandLine.Console
import EventFlow.Config.Environment
import EventFlow.Config.Home
import EventFlow.Log.Filter
import EventFlow.Session.Http

/-!
# Running a command

What the command `raven` prints, and how it ends.

Settings come from the configuration file, then from the environment, then from the arguments. The
file in the configuration home is made if it is missing, but only when no other file is named and
the arguments are in order. A failure is one line of text that begins with what was being done and
ends with what was behind it. What is noted meanwhile is kept as far as a filter, which a variable
can give, lets it through.

A console may refuse what is printed. If that is a message, the command fails, and what it would
have done with the message is left undone; a line of the command's own that is refused is a fault.

## Main definitions

* `Surroundings`: what a command finds around it.
* `Failure`: why a command failed.
* `CommandLine.pieces`: how a message is printed.
* `CommandLine.settings`: the settings of a command.
* `CommandLine.execute`: the work of a command.
* `CommandLine.run`: a whole command, from its arguments to its end.
-/

namespace EventFlow

/-- What a command finds around it. -/
structure Surroundings where
  /-- The value of an environment variable. -/
  lookup : String → Option String
  /-- What is read from a path. -/
  read : String → Except FileProblem Bytes
  /-- The configuration home, unless there is no place for one. -/
  home : Except ConfigError Home

/-- Why a command failed. -/
inductive Failure where
  /-- There is no configuration; perhaps it is known where the fault lies. -/
  | config (context : Option String) (e : ConfigError)
  | worker (e : WorkerError)
  /-- The console refused a message. -/
  | unprinted (reason : String)
  /-- The console refused a line. -/
  | unwritable (reason : String)
  /-- It needed a moment that the clock cannot show. -/
  | beyondClock
  /-- It was given up before it came to a result. -/
  | unfinished
  deriving DecidableEq, Inhabited

namespace Failure

/-- How a failure is shown. -/
def text : Failure → String
  | config (some context) e => context ++ ": " ++ e.chain
  | config none e => e.chain
  | worker e => e.chain
  | unprinted reason => reason
  | unwritable reason => "failed printing to stdout: " ++ reason
  | beyondClock => "overflow when adding duration to instant"
  | unfinished => "no result"

/-- Whether a failure is a fault, which nothing of the command comes after. -/
def isFault : Failure → Bool
  | unwritable _ => true
  | beyondClock => true
  | _ => false

/-- The exit code of a command that failed. -/
def exitCode (failure : Failure) : Nat := if failure.isFault then 101 else 1

end Failure

namespace CommandLine

/-! ## Settings -/

/-- The settings of the configuration file, where it is, and the home afterwards. -/
def loadFile (around : Surroundings) (named : Option String) :
    Except ConfigError (FileConfig × String) × Except ConfigError Home :=
  match named with
  | some path => ((FileConfig.load path (around.read path)).map (·, path), around.home)
  | none =>
    match around.home with
    | .error e => (.error e, .error e)
    | .ok home =>
      let (file, after) := home.load
      (file.map (·, home.path), .ok after)

/-- Puts the time limit of the arguments over the others. -/
def applyArguments (s : Settings) : Command → Settings
  | .consume _ _ (some timeout) => s.withConsumeTimeout timeout
  | _ => s

/-- The settings of a command: those of the file, the environment and the arguments. -/
def settings (around : Surroundings) (file : FileConfig) (path : String) (command : Command) :
    Except Failure Settings :=
  match Settings.empty.applyFile file with
  | .error e => .error (.config (some ("config file " ++ path)) e)
  | .ok s =>
    match s.applyVariables around.lookup with
    | .error e => .error (.config (some "environment") e)
    | .ok s => .ok (applyArguments s command)

/-- The configuration of a command. -/
def configure (around : Surroundings) (file : FileConfig) (path : String) (command : Command) :
    Except Failure Config :=
  match settings around file path command with
  | .error e => .error e
  | .ok s =>
    match s.build with
    | .error e => .error (.config none e)
    | .ok config => .ok config

/-! ## Printing -/

/-- A line of text. -/
def line (s : String) : Bytes := Bytes.ofText (s ++ "\n")

/-- A message as it is printed: a line for each metadata entry and an empty one behind them, then
    the content, with the end of a line if that is missing. -/
def pieces (m : Message) : List Console.Piece :=
  (m.metadata.map fun entry => .text (line (entry.key ++ "=" ++ entry.value))) ++
    (if m.metadata.isEmpty then [] else [.text (line "")]) ++
    .text m.content :: (if m.content.getLast? = some 0x0a then [] else [.text (line "")]) ++
    [.flush]

/-- A name in a column of sixteen characters, and a value. -/
def entry (name value : String) : Console.Piece :=
  .text (line (name ++ "".pushn ' ' (16 - name.length) ++ " " ++ value))

/-- A configuration as it is printed. -/
def configPieces (config : Config) (path : String) : List Console.Piece :=
  [entry "config file" path,
    entry "endpoints" (", ".intercalate (config.endpoints.map Url.text)),
    entry "flow id" config.flowId,
    entry "worker id" config.workerId,
    entry "consume timeout" ((config.consumeTimeout.map Span.text).getD "none"),
    entry "max intake" ((config.maxIntake.map toString).getD "unlimited"),
    entry "http timeout" config.httpTimeout.text]

/-! ## Work -/

/-- What came of the work of a command. -/
structure Work (σ κ : Type) where
  /-- The state of the console afterwards. -/
  console : κ
  failure : Option Failure
  /-- The state of everything outside afterwards. -/
  outside : σ
  /-- What was noted. -/
  remarks : List Log.Remark

namespace Work

variable {σ κ α : Type}

/-- What is noted of a failure. Nothing is left to note a fault. -/
def remarksOn (failure : Failure) : List Log.Remark :=
  if failure.isFault then []
  else
    match failure with
    | .worker e => Log.Remark.ofError e ++ [.failed]
    | _ => [.failed]

/-- Work that failed before there was a worker. -/
def refused (console : κ) (outside : σ) (failure : Failure) : Work σ κ :=
  ⟨console, some failure, outside, remarksOn failure⟩

/-- What was noted of a worker. -/
def remarksOf (w : World σ) : List Log.Remark :=
  w.trace.reverse.flatMap Log.Remark.ofEvent

/-- Work that came to its end. -/
def done (console : κ) (w : World σ) : Work σ κ :=
  ⟨console, none, w.outside, remarksOf w⟩

/-- Work that failed. -/
def failed (console : κ) (w : World σ) (failure : Failure) : Work σ κ :=
  ⟨console, some failure, w.outside, remarksOf w ++ remarksOn failure⟩

/-- Goes on with the result of an operation. -/
def andThen (console : κ) (ended : Outcome α × World σ) (next : α → World σ → Work σ κ) :
    Work σ κ :=
  match ended with
  | (.finished (.ok a), w) => next a w
  | (.finished (.error e), w) => failed console w (.worker e)
  | (.beyondClock, w) => failed console w .beyondClock
  | (.unfinished, w) => failed console w .unfinished

/-- Goes on after something was printed, unless the console refuses a piece of it. -/
def printing (c : Console κ) (pieces : List Console.Piece) (failure : String → Failure)
    (console : κ) (w : World σ) (next : κ → Work σ κ) : Work σ κ :=
  match c.putAll pieces console with
  | (.error reason, console) => failed console w (failure reason)
  | (.ok (), console) => next console

/-- Prints a line, and is done. -/
def doneWith (c : Console κ) (text : String) (console : κ) (w : World σ) : Work σ κ :=
  printing c [.text (line text)] .unwritable console w fun console => done console w

/-- Work with one more thing noted at its end. -/
def noting (remark : Log.Remark) (work : Work σ κ) : Work σ κ :=
  { work with remarks := work.remarks ++ [remark] }

end Work

variable {σ κ : Type}

/-- The options of an acknowledgment: a replacement if content or metadata is given, and the
    filter. -/
def ackOptions (content : Option String) (metadata : List Metadata) (filter : Bool) :
    List AckOption :=
  (if content.isSome || !metadata.isEmpty then
    [.replace { Message.ofText (content.getD "") with metadata }] else []) ++
  (if filter then [.filter] else [])

/-- Claims, and if asked to fetches, prints and acknowledges what was claimed. -/
def executeConsume (b : Outside σ) (c : Console κ) (rounds : Nat) (ack filter : Bool) (console : κ)
    (w : World σ) : Work σ κ :=
  Work.andThen console (w.consume b rounds) fun reference w =>
    Work.printing c [.text (line reference.text)] .unwritable console w fun console =>
      if ack then
        Work.andThen console (w.get b rounds reference) fun message w =>
          -- The message is printed before it is settled, and not settled if it cannot be printed,
          -- so that nothing settled stays unseen.
          Work.printing c (pieces message) .unprinted console w fun console =>
            Work.andThen console (w.ack b rounds reference (if filter then [.filter] else []))
              fun _ w => (Work.done console w).noting .settled
      else .done console w

/-- Does the work of a command with a worker. -/
def executeWith (b : Outside σ) (c : Console κ) (rounds : Nat) (command : Command) (console : κ)
    (w : World σ) : Work σ κ :=
  match command with
  | .consume ack filter _ => executeConsume b c rounds ack filter console w
  | .get eventId ackId =>
    Work.andThen console (w.get b rounds (.of (ackId.getD "") eventId)) fun message w =>
      Work.printing c (pieces message) .unprinted console w fun console => .done console w
  | .ack ackId eventId content metadata filter =>
    let reference := Reference.of ackId eventId
    Work.andThen console (w.ack b rounds reference (ackOptions content metadata filter)) fun _ w =>
      .doneWith c ("Acknowledged " ++ reference.text) console w
  | .produce content metadata =>
    Work.andThen console (w.produce b rounds { Message.ofText content with metadata })
      fun eventId w => .doneWith c eventId console w
  | .config => .done console w

/-- The clock and the signals at the beginning. -/
def beginning : Scene := ⟨0, .empty⟩

/-- The signal that shuts the worker of a command down. -/
def shutdownSignal : SignalId := beginning.signals.size

/-- Does the work of a command. Only showing the configuration needs no worker. -/
def execute (b : Outside σ) (c : Console κ) (rounds : Nat) (command : Command) (config : Config)
    (path : String) (console : κ) (outside : σ) : Work σ κ :=
  match command with
  | .config =>
    match c.putAll (configPieces config path) console with
    | (.error reason, console) => .refused console outside (.unwritable reason)
    | (.ok (), console) => ⟨console, none, outside, []⟩
  | command =>
    match World.prepare config beginning outside with
    | .error e => .refused console outside (.worker e)
    | .ok w =>
      match w.launch b with
      | (.error e, w) => .failed console w (.worker e)
      | (.ok (), w) => executeWith b c rounds command console w

/-! ## The whole command -/

/-- How a command ended. -/
structure Ending (τ κ : Type) where
  /-- The exit code. -/
  exit : Nat
  /-- The console. -/
  console : κ
  /-- Why it failed, if its arguments were in order. -/
  failure : Option Failure
  /-- Why its arguments were not, if they were not. -/
  arguments : Option ArgumentError
  /-- The configuration home afterwards. -/
  home : Except ConfigError Home
  /-- The transport and what was sent. -/
  outside : Http.State τ
  /-- What was noted and kept. -/
  log : List Log.Remark

variable {τ : Type}

/-- What of all that was noted is kept. -/
def kept (around : Surroundings) (remarks : List Log.Remark) : List Log.Remark :=
  remarks.filter (Log.Filter.ofVariable (around.lookup "RUST_LOG")).keeps

/-- What is noted when a configuration file is loaded. -/
def remarksOnFile (before after : Except ConfigError Home) (isLoaded : Bool) :
    List Log.Remark :=
  let isThere (home : Except ConfigError Home) := match home with
    | .ok home => home.content.isSome
    | .error _ => false
  (if isThere after && !isThere before then [.fileMade] else []) ++
    (if isLoaded then [.fileRead] else [])

/-- The work of a command whose configuration file was loaded. -/
def runLoaded (t : Http.Transport τ) (c : Console κ) (rounds : Nat) (around : Surroundings)
    (command : Command) (file : FileConfig) (path : String) (console : κ)
    (outside : Http.State τ) : Work (Http.State τ) κ :=
  match configure around file path command with
  | .error failure => .refused console outside failure
  | .ok config =>
    execute (Http.outside (.ofConfig config) t) c rounds command config path console outside

/-- Runs a command whose arguments are in order. -/
def runArguments (t : Http.Transport τ) (c : Console κ) (rounds : Nat) (around : Surroundings)
    (arguments : Arguments) (console : κ) (transport : τ) : Ending τ κ :=
  let outside : Http.State τ := ⟨transport, []⟩
  let (loaded, home) := loadFile around arguments.config
  let work : Work (Http.State τ) κ := match loaded with
    | .error e => .refused console outside (.config none e)
    | .ok (file, path) =>
      runLoaded t c rounds around arguments.command file path console outside
  let noted := .opened :: remarksOnFile around.home home loaded.toBool ++ work.remarks
  { exit := (work.failure.map Failure.exitCode).getD 0
    console := work.console
    failure := work.failure
    arguments := none
    home := home
    outside := work.outside
    log := kept around noted }

/-- Runs a command. -/
def run (t : Http.Transport τ) (c : Console κ) (rounds : Nat) (around : Surroundings)
    (arguments : List String) (console : κ) (transport : τ) : Ending τ κ :=
  match Arguments.ofList arguments with
  | .ok arguments => runArguments t c rounds around arguments console transport
  | .error e =>
    { exit := e.exitCode
      console := console
      failure := none
      arguments := some e
      home := around.home
      outside := ⟨transport, []⟩
      log := kept around [.opened] }

end CommandLine

end EventFlow
