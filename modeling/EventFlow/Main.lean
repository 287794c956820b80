import EventFlow.CommandLine.Help
import EventFlow.CommandLine.Run
import EventFlow.Session.Http.Recorded
import EventFlow.Session.Http.Wire
import Std.Async.DNS
import Std.Async.TCP

/-!
# The command

The command `raven` on a real machine: its arguments, the environment, files, the network, the
console and the clock.

A command is run as `EventFlow.Session.Http.Recorded` and `EventFlow.CommandLine.Console` say: as
often as it makes requests and prints, each time over the exchanges and the answers of the console
known by then. So everything is printed when the command comes to it, before the requests behind it
are made, and these are not made if the console refuses it. Before a request is made, before
anything is printed and before the command ends, the waits that come before it are kept.
-/

namespace EventFlow

namespace Main

open Std.Async

/-! ## Files -/

/-- What an error of the system means for a file. -/
def problem : IO.Error → FileProblem
  | .noFileOrDirectory .. => .notFound
  | .inappropriateType .. => .isDirectory
  | e => .other (toString e)

/-- What is read from a path. -/
def readFile (path : String) : IO (Except FileProblem Bytes) := do
  try
    let bytes ← IO.FS.readBinFile path
    return .ok bytes.data.toList
  catch e => return .error (problem e)

/-- The home of the configuration, whose directory is made if it is missing. -/
def findHome : IO (Except ConfigError Home) := do
  let config ← IO.getEnv "XDG_CONFIG_HOME"
  let user ← IO.getEnv "HOME"
  let lookup (name : String) : Option String := if name = "HOME" then user else config
  match Home.directory? lookup with
  | none => return .error (.noHome "$HOME must be set")
  | some directory =>
    let home : Home := ⟨directory, none, none⟩
    try
      IO.FS.createDirAll home.folder
      match ← readFile home.path with
      | .ok content => return .ok { home with content := some content }
      | .error _ => return .ok home
    catch e => return .ok { home with blocked := some (problem e) }

/-- Writes the configuration file that was made, if one was. -/
def saveHome (before after : Except ConfigError Home) : IO Unit :=
  match before, after with
  | .ok before, .ok after =>
    match before.content, after.content with
    | none, some content => IO.FS.writeBinFile after.path ⟨content.toArray⟩
    | _, _ => return ()
  | _, _ => return ()

/-- The variables that a command looks at. -/
def variableNames : List String :=
  ["RAVEN_URL", "FLOW_ID", "WORKER_ID", "CONSUME_TIMEOUT", "MAX_INTAKE", "RUST_LOG"]

/-- What a command finds around it. -/
def surroundings (arguments : List String) : IO Surroundings := do
  let values ← variableNames.mapM fun name => return (name, ← IO.getEnv name)
  let named := (Arguments.ofList arguments).toOption.bind (·.config)
  let content ← match named with
    | some path => readFile path
    | none => pure (.error .notFound)
  let usesHome := named.isNone && (Arguments.ofList arguments).toOption.isSome
  let home ← if usesHome then findHome else pure (.error (.noHome "not looked for"))
  return {
    lookup := fun name => (values.lookup name).bind id
    read := fun _ => content
    home := home }

/-- Adds what was kept to the log. -/
def writeLog (remarks : List Log.Remark) : IO Unit := do
  let user ← IO.getEnv "HOME"
  match (← IO.getEnv "XDG_STATE_HOME").or (user.map (· ++ "/.local/state")) with
  | none => return ()
  | some base =>
    try
      IO.FS.createDirAll (base ++ "/raven")
      let log ← IO.FS.Handle.mk (base ++ "/raven/raven.log") .append
      for remark in remarks do
        log.putStrLn (remark.level.name ++ " " ++ remark.part ++ ": " ++ remark.text)
    catch _ => return ()

/-! ## Network -/

/-- The host and the port that a request goes to. -/
def address (r : Http.Request) : Option (String × UInt16) :=
  if String.ofList r.url.scheme = "http" then
    r.url.authority.map fun a =>
      let host := match a.host with
        | .ipv6 pieces => Ipv6.text pieces
        | host => host.text
      (String.ofList host, .ofNat (a.port.getD 80))
  else none

/-- A place on the network. -/
def place (address : Std.Net.IPAddr) (port : UInt16) : Std.Net.SocketAddress :=
  match address with
  | .v4 a => .v4 ⟨a, port⟩
  | .v6 a => .v6 ⟨a, port⟩

/-- All that comes on a connection until it is closed. -/
partial def receive (socket : TCP.Socket.Client) (before : ByteArray) : Async ByteArray := do
  match ← socket.recv? 65536 with
  | some bytes => receive socket (before ++ bytes)
  | none => return before

/-- Sends bytes to a host, and receives what it answers. -/
def converse (host : String) (port : UInt16) (bytes : Bytes) : Async ByteArray := do
  let addresses ← DNS.getAddrInfo host (toString port)
  match addresses[0]? with
  | none => throw (IO.userError "no such host")
  | some address =>
    let socket ← TCP.Socket.Client.mk
    socket.connect (place address port)
    socket.send ⟨bytes.toArray⟩
    receive socket .empty

/-- Waits for a task, but no longer than so many milliseconds. -/
partial def await {α : Type} (task : Task α) (deadline : Nat) : IO (Option α) := do
  if ← IO.hasFinished task then return some (← IO.wait task)
  else if deadline ≤ (← IO.monoMsNow) then return none
  else
    IO.sleep 1
    await task deadline

/-- Makes a request. -/
def exchange (r : Http.Request) : IO (Except TransferFailure Http.Response) := do
  match address r with
  | none => return .error .unreachable
  | some (host, port) =>
    let deadline := (← IO.monoMsNow) + r.timeoutMillis
    let task ← IO.asTask (converse host port r.toBytes).block
    match ← await task deadline with
    | none => return .error .timedOut
    | some (.error _) => return .error .unreachable
    | some (.ok bytes) => return Http.Response.ofBytes bytes.data.toList

/-- Makes a request, and takes the time. -/
def timedExchange (r : Http.Request) : IO Http.Exchange := do
  let began ← IO.monoNanosNow
  let result ← exchange r
  let ended ← IO.monoNanosNow
  return ⟨result, [⟨ended - began, []⟩]⟩

/-! ## Console -/

/-- Prints a piece. It does not stay behind in a buffer, where a refusal would show up too late. -/
def put (piece : Console.Piece) : IO (Except String Unit) := do
  let output ← IO.getStdout
  try
    output.write ⟨piece.bytes.toArray⟩
    output.flush
    return .ok ()
  catch e => return .error (toString e)

/-! ## The whole command -/

/-- How often an operation may be tried. -/
def rounds : Nat := 0x4000_0000_0000_0000

/-- Sleeps until so many nanoseconds have passed since a moment. -/
def sleepUntil (began wake : Nat) : IO Unit := do
  let now ← IO.monoNanosNow
  let rest := began + wake - now
  if 0 < rest then IO.sleep (.ofNat ((rest + 999_999) / 1_000_000))

/-- How a command ends over a record. -/
abbrev Recorded := CommandLine.Ending Http.Recording Console.Recording

/-- Runs a command over what is known. -/
def replay (around : Surroundings) (arguments : List String) (exchanges : List Http.Exchange)
    (answers : List (Except String Unit)) : Recorded :=
  CommandLine.run (.recorded CommandLine.shutdownSignal) .recorded rounds around arguments
    (.of answers) (.of exchanges)

/-- Runs a command over what is known, and again when more is known, until nothing is wanted. -/
partial def run (around : Surroundings) (arguments : List String) (began : Nat)
    (exchanges : List Http.Exchange) (answers : List (Except String Unit)) : IO Recorded := do
  let ending := replay around arguments exchanges answers
  let record := ending.outside.transport
  sleepUntil began record.wake
  -- A run ends with the first of these, so there is no second one.
  match ending.console.wanted, record.wanted with
  | some piece, _ => run around arguments began exchanges (answers ++ [← put piece])
  | none, some r => run around arguments began (exchanges ++ [← timedExchange r]) answers
  | none, none => return ending

/-- Tells how a command ended, and gives its exit code. -/
def report (ending : Recorded) : IO UInt32 := do
  match ending.arguments with
  | some .help => IO.print CommandLine.help
  | some .usage => IO.eprint (CommandLine.usage none)
  | some (.value reason) => IO.eprint (CommandLine.usage (some reason))
  | none =>
    match ending.failure with
    | some failure =>
      IO.eprintln (if failure.isFault then failure.text else "raven error: " ++ failure.text)
    | none => pure ()
  (← IO.getStdout).flush
  return .ofNat ending.exit

end Main

end EventFlow

def main (arguments : List String) : IO UInt32 := do
  let around ← EventFlow.Main.surroundings arguments
  -- The home is the same in all runs, and it is there before anything else is done.
  EventFlow.Main.saveHome around.home (EventFlow.Main.replay around arguments [] []).home
  let ending ← EventFlow.Main.run around arguments (← IO.monoNanosNow) [] []
  EventFlow.Main.writeLog ending.log
  EventFlow.Main.report ending
