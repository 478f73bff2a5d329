import ApiStubs.Disk.Fault
import ApiStubs.Json.Fault
import ApiStubs.Toml.Fault

/-!
# Why settings are refused
-/

namespace ApiStubs.Settings

/-- Why settings are refused. -/
inductive Fault where
  | json (cause : Json.Fault)
  | toml (cause : Toml.Fault)
  /-- a settings file that cannot be read -/
  | unreadable (path : String) (cause : Disk.Fault)
  /-- a part of a parameter without an equals sign -/
  | notPair (text : String)
  | unknownKey (key : String)
  | unknownLevel (text : String)
  /-- a cause given by its text -/
  | note (text : String)
  deriving DecidableEq, Repr, Inhabited

/-- The text of the diagnostic. -/
def Fault.message : Fault → String
  | .json cause => cause.message
  | .toml cause => cause.message
  | .unreadable path cause => "failed to read " ++ path ++ ": " ++ cause.message
  | .notPair text => "expected key=value, got '" ++ text ++ "'"
  | .unknownKey key => "unknown parameter key: " ++ key
  | .unknownLevel text => "unknown log level: " ++ text
  | .note text => text

end ApiStubs.Settings
