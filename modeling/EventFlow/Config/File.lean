import EventFlow.Config

/-!
# Configuration from a file

What a configuration file can say. Every entry may be missing, so that the environment can fill the
gaps; an entry that is there counts even if it is blank, except that an empty list of endpoints says
nothing.

## Main definitions

* `FileConfig`: the entries of a configuration file.
* `Settings.applyFile`: the values with those of a file over them.
-/

namespace EventFlow

/-- The entries of a configuration file. -/
structure FileConfig where
  endpoints : List String
  flowId : Option String
  workerId : Option String
  /-- The text of a span. -/
  consumeTimeout : Option String
  maxIntake : Option UInt64
  httpTimeoutSecs : Option UInt64
  retry : Option RetrySettings
  deriving DecidableEq, Inhabited

namespace FileConfig

/-- A file without entries. -/
def empty : FileConfig := ⟨[], none, none, none, none, none, none⟩

end FileConfig

namespace Settings

/-- Applies an entry, if there is one. -/
def whenGiven {α : Type} (entry : Option α) (apply : Settings → α → Settings) (s : Settings) :
    Settings :=
  match entry with
  | some value => apply s value
  | none => s

/-- Puts the endpoints of a file over those collected before. -/
def applyFileEndpoints (endpoints : List String) (s : Settings) : Settings :=
  if endpoints.isEmpty then s else s.withEndpoints (",".intercalate endpoints)

/-- Applies the text that limits every claim, if there is one. -/
def applyTimeoutText (text : Option String) (s : Settings) : Except ConfigError Settings :=
  match text with
  | none => .ok s
  | some text =>
    match parseDuration text with
    | .error e => .error e
    | .ok limit => .ok (s.withConsumeTimeout limit)

/-- Puts the values of a file over those collected before. -/
def applyFile (s : Settings) (file : FileConfig) : Except ConfigError Settings :=
  let s := applyFileEndpoints file.endpoints s
  let s := whenGiven file.flowId withFlowId s
  let s := whenGiven file.workerId withWorkerId s
  match s.applyTimeoutText file.consumeTimeout with
  | .error e => .error e
  | .ok s =>
    let s := whenGiven file.maxIntake withMaxIntake s
    let s := whenGiven file.httpTimeoutSecs (fun s secs => s.withHttpTimeout (.ofSecs secs)) s
    .ok (whenGiven file.retry (fun s retry => s.withBackoff retry.policy) s)

end Settings

end EventFlow
