import EventFlow.Config.File
import EventFlow.Text.Utf8
import EventFlow.Toml.Reader

/-!
# Reading a configuration file

How the entries of a file become settings. Entries of other names are ignored, and an entry that is
there must have the right type: nothing is converted, except that a whole number may stand for a
factor. The retry section may also be a list of its values in their order, of which the limits at
the end may be missing and any that are too many are ignored.

## Main definitions

* `FileConfig.ofEntries?`: the settings of a table.
* `FileConfig.ofText`: the settings of a file.
* `FileConfig.defaultText`: the file that is made when there is none.
-/

namespace EventFlow

namespace Toml

/-- The text of a value that is one. -/
def text? : Toml → Option String
  | .text s => some (String.ofList s)
  | _ => none

/-- A value that is a whole number in a range from zero. -/
def below? (limit : Nat) : Toml → Option Nat
  | .integer (.ofNat n) => if n < limit then some n else none
  | _ => none

/-- A value that is an unsigned 64-bit number. -/
def word64? (value : Toml) : Option UInt64 :=
  (value.below? UInt64.size).map UInt64.ofNat

/-- A value that is an unsigned 32-bit number. -/
def word32? (value : Toml) : Option UInt32 :=
  (value.below? UInt32.size).map UInt32.ofNat

/-- A value that is a number, as a floating point number. -/
def factor? : Toml → Option Binary64
  | .float x => some x
  | .integer n => some (.ofRatio (decide (n < 0)) n.natAbs 1)
  | _ => none

/-- A value that is a list of texts. -/
def texts? : Toml → Option (List String)
  | .array items => items.mapM text?
  | _ => none

/-- The entry of a name read by a decoder, if there is one. -/
def optional? {α : Type} (decode : Toml → Option α) (name : String) (entries : Entries) :
    Option (Option α) :=
  match find? name.toList entries with
  | none => some none
  | some value => (decode value).map some

/-- The entry of a name read by a decoder; there must be one. -/
def required? {α : Type} (decode : Toml → Option α) (name : String) (entries : Entries) :
    Option α :=
  (find? name.toList entries).bind decode

end Toml

namespace RetrySettings

/-- The names of the values of a retry section, in their order. -/
def names : List String :=
  ["initial_interval_ms", "multiplier", "max_interval_ms", "max_retries", "max_elapsed_secs"]

/-- The retry section of a table. -/
def ofEntries? (entries : Toml.Entries) : Option RetrySettings := do
  let initialMillis ← Toml.required? Toml.word64? "initial_interval_ms" entries
  let multiplier ← Toml.required? Toml.factor? "multiplier" entries
  let capMillis ← Toml.required? Toml.word64? "max_interval_ms" entries
  let maxRetries ← Toml.optional? Toml.word32? "max_retries" entries
  let maxElapsedSecs ← Toml.optional? Toml.word64? "max_elapsed_secs" entries
  return { initialMillis, multiplier, capMillis, maxRetries, maxElapsedSecs }

/-- The retry section that a value describes. -/
def ofToml? : Toml → Option RetrySettings
  | .table _ entries => ofEntries? entries
  | .array items => ofEntries? ((names.map String.toList).zip items)
  | _ => none

end RetrySettings

namespace FileConfig

/-- The settings of a table. -/
def ofEntries? (entries : Toml.Entries) : Option FileConfig := do
  let endpoints ← Toml.optional? Toml.texts? "endpoints" entries
  let flowId ← Toml.optional? Toml.text? "flow_id" entries
  let workerId ← Toml.optional? Toml.text? "worker_id" entries
  let consumeTimeout ← Toml.optional? Toml.text? "consume_timeout" entries
  let maxIntake ← Toml.optional? Toml.word64? "max_intake" entries
  let httpTimeoutSecs ← Toml.optional? Toml.word64? "http_timeout_secs" entries
  let retry ← Toml.optional? RetrySettings.ofToml? "retry" entries
  return {
    endpoints := endpoints.getD []
    flowId, workerId, consumeTimeout, maxIntake, httpTimeoutSecs, retry }

/-- The settings of a file. -/
def ofText (text : String) : Except ConfigError FileConfig :=
  match Toml.ofText? text with
  | none => .error (.parse "not a configuration file")
  | some entries =>
    match ofEntries? entries with
    | none => .error (.parse "an entry has the wrong type or is missing")
    | some file => .ok file

/-- The settings of what was read from a path. -/
def load (path : String) (content : Except FileProblem Bytes) : Except ConfigError FileConfig :=
  match content with
  | .error problem => .error (.file path problem)
  | .ok bytes =>
    match Bytes.text? bytes with
    | none => .error (.file path .notText)
    | some text => ofText text

/-- The file that is made when there is none. -/
def defaultText : String := "endpoints = []\n"

end FileConfig

end EventFlow
