import QueryCache.Settings.Basic
import QueryCache.Surroundings
/-!
# Where settings come from

Settings are read from the file that is named, or else from `dashq.yaml` where the program was
started, or else from `dashq/config.yaml` in the user's folder for settings.  A file that is
named has to be there; the next one is tried only if there is none.
-/

namespace QueryCache

/-- Why there are no settings. -/
inductive SourceError where
  /-- There is nothing at the path that was named. -/
  | missing (path : String)
  /-- No path was named, and there is no file where one is looked for. -/
  | nowhere
  /-- There is a folder where a file should be. -/
  | folder (path : String)
  | invalid (path : String) (why : SettingsError)
deriving DecidableEq, Repr

def SourceError.message : SourceError → String
  | missing path => "Config file not found: " ++ path
  | nowhere =>
    "No configuration file found. Create one at ~/.config/dashq/config.yaml\n"
      ++ "                 See config.example.yaml for the format."
  | folder path => "Failed to read config file " ++ path ++ ": Is a directory (os error 21)"
  | invalid path .malformed => "Invalid config file " ++ path
  | invalid path (.cyclic cycle) =>
    "Invalid config file " ++ path ++ ": " ++ Cascade.cycleText cycle

namespace Settings

/-- Reads the settings at a path, if anything is there. -/
def readAt? (s : Surroundings) (path : String) : Option (Except SourceError Settings) :=
  match s.find path with
  | .nothing => none
  | .folder => some (.error (.folder path))
  | .file text => some (match read text with
    | .ok settings => .ok settings
    | .error why => .error (.invalid path why))

/-- The paths that are looked at when none is named. -/
def usualPaths (s : Surroundings) : List String :=
  "dashq.yaml" :: (s.settingsFolder.map (· ++ "/dashq/config.yaml")).toList

/-- Finds and reads the settings. -/
def load (s : Surroundings) (named : Option String) : Except SourceError Settings :=
  match named with
  | some path => (readAt? s path).getD (.error (.missing path))
  | none => ((usualPaths s).findSome? (readAt? s)).getD (.error .nowhere)

/-- The token that the environment holds, if any. -/
def token? (settings : Settings) (s : Surroundings) : Option String :=
  s.valueOf? settings.tokenVariable

end Settings

end QueryCache
