import EventFlow.Config
import EventFlow.Text.Utf8

/-!
# Configuration from the environment

The variables that a worker looks at.

A variable that is missing, that is not text, or of which nothing but white space is left, says
nothing and leaves what was collected before alone.

## Main definitions

* `Environment`: the variables that are set.
* `Settings.applyVariables`: the values with those of some variables over them.
* `Settings.applyEnvironment`: the same with the variables of an environment.
-/

namespace EventFlow

/-- The variables that are set, each to its bytes. -/
abbrev Environment := String → Option Bytes

/-- The text that a variable is set to; one that is set to something else counts as missing. -/
def Environment.lookup (environment : Environment) (name : String) : Option String :=
  (environment name).bind Bytes.text?

namespace Settings

/-- The value of an unsigned 64-bit number: digits, possibly after a plus sign. -/
def number? (text : String) : Option UInt64 :=
  let digits := match text.toList with
    | '+' :: rest => rest
    | s => s
  if digits.isEmpty || !digits.all Char.isDigit then none
  else
    let n := Span.digitsValue digits
    if n < UInt64.size then some (UInt64.ofNat n) else none

/-- What a variable says, if it says anything. -/
def said? (lookup : String → Option String) (name : String) : Option String :=
  (lookup name).filter fun value => !Text.isBlankText value

/-- Applies what a variable says, if it says anything. -/
def whenSaid (lookup : String → Option String) (name : String)
    (apply : Settings → String → Settings) (s : Settings) : Settings :=
  match said? lookup name with
  | some value => apply s value
  | none => s

/-- Applies the variable that limits every claim. -/
def applyConsumeTimeout (lookup : String → Option String) (s : Settings) :
    Except ConfigError Settings :=
  match said? lookup "CONSUME_TIMEOUT" with
  | none => .ok s
  | some value =>
    match parseDuration value with
    | .error e => .error e
    | .ok limit => .ok (s.withConsumeTimeout limit)

/-- Applies the variable that limits the number of claims. -/
def applyMaxIntake (lookup : String → Option String) (s : Settings) :
    Except ConfigError Settings :=
  match said? lookup "MAX_INTAKE" with
  | none => .ok s
  | some value =>
    match number? (Text.trim value) with
    | none => .error (.invalidNumber "MAX_INTAKE" value)
    | some limit => .ok (s.withMaxIntake limit)

/-- Puts the values of variables over those collected before. -/
def applyVariables (s : Settings) (lookup : String → Option String) :
    Except ConfigError Settings :=
  let s := whenSaid lookup "RAVEN_URL" withEndpoints s
  let s := whenSaid lookup "FLOW_ID" withFlowId s
  let s := whenSaid lookup "WORKER_ID" withWorkerId s
  match s.applyConsumeTimeout lookup with
  | .error e => .error e
  | .ok s => s.applyMaxIntake lookup

/-- Puts the values of the environment over those collected before. -/
def applyEnvironment (s : Settings) (environment : Environment) : Except ConfigError Settings :=
  s.applyVariables environment.lookup

end Settings

end EventFlow
