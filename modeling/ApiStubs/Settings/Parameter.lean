import ApiStubs.Settings.Basic
import ApiStubs.Text.Blank
import ApiStubs.Text.Split

/-!
# Settings as a parameter

A parameter lists settings as `key=value` pairs with commas between them.  Blanks around pairs, keys
and values do not count, nor do empty pairs.  The pairs before one that is refused stay in force.
-/

namespace ApiStubs.Settings

/-- The setting that a key of a parameter stands for. -/
def Key.ofText? (key : String) : Option Key :=
  if key = "lang" || key = "backend" then some .backend
  else if key = "template_dir" then some .templateDir
  else if key = "log_level" then some .logLevel
  else if key = "output_dir" then some .outputDir
  else none

/-- The pairs of a parameter. -/
def pairs (parameter : String) : List String :=
  ((Text.segments ',' parameter).map Text.trim).filter fun pair => pair ≠ ""

/-- The setting that a pair changes, and its value. -/
def readPair (pair : String) : Except Fault (Key × String) :=
  match Text.splitOnce '=' pair.toList with
  | none => .error (.notPair pair)
  | some (before, after) =>
    match Key.ofText? (Text.trim (String.ofList before)) with
    | none => .error (.unknownKey (Text.trim (String.ofList before)))
    | some key => .ok (key, Text.trim (String.ofList after))

/-- The settings after pairs, and why the first bad one was refused. -/
def applyPairs (settings : Settings) : List String → Settings × Option Fault
  | [] => (settings, none)
  | pair :: rest =>
    match readPair pair with
    | .error e => (settings, some e)
    | .ok (key, value) => applyPairs (settings.set key value) rest

/-- The settings after a parameter, and why it was refused, if it was. -/
def apply (settings : Settings) (parameter : String) : Settings × Option Failure :=
  match applyPairs settings (pairs parameter) with
  | (after, none) => (after, none)
  | (after, some e) => (after, some (.settings e))

/-- The settings of a parameter. -/
def ofParameter (parameter : String) : Except Failure Settings :=
  match standard.apply parameter with
  | (settings, none) => .ok settings
  | (_, some e) => .error e

end ApiStubs.Settings
