import EventFlow.Config.File.Reader

/-!
# The configuration home

The place where the configuration file is found unless another file is named.

Its directory is made when it is missing, and so is the file; a file that was just made counts as
one without entries and is not read again.

## Main definitions

* `Home`: the place, and what is there.
* `Home.load`: the settings found there.
-/

namespace EventFlow

/-- The place of the configuration file. -/
structure Home where
  /-- The directory of all configuration. -/
  directory : String
  /-- Why the directory of the file cannot be made, if it cannot. -/
  blocked : Option FileProblem
  /-- What is in the file, if there is one. -/
  content : Option Bytes
  deriving DecidableEq, Inhabited

namespace Home

/-- The directory of all configuration: the one that a variable names, if that is an absolute path,
    or else the one in the user's directory. -/
def directory? (lookup : String → Option String) : Option String :=
  match (lookup "XDG_CONFIG_HOME").filter (·.startsWith "/") with
  | some directory => some directory
  | none =>
    ((lookup "HOME").filter fun home => !home.isEmpty).map (· ++ "/.config")

/-- The directory of the file. -/
def folder (home : Home) : String := home.directory ++ "/raven"

/-- The path of the file. -/
def path (home : Home) : String := home.folder ++ "/config.toml"

/-- The path of the file, once its directory is there. -/
def place (home : Home) : Except ConfigError String :=
  match home.blocked with
  | some problem => .error (.file home.folder problem)
  | none => .ok home.path

/-- The settings of the file, which is made if there is none. -/
def load (home : Home) : Except ConfigError FileConfig × Home :=
  match home.place with
  | .error e => (.error e, home)
  | .ok path =>
    match home.content with
    | some bytes => (FileConfig.load path (.ok bytes), home)
    | none => (.ok .empty, { home with content := some (Bytes.ofText FileConfig.defaultText) })

end Home

end EventFlow
