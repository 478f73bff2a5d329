import ApiStubs.Settings.Basic
import ApiStubs.Toml.Table

/-!
# Settings as a document

The settings are the keys of the outermost table; other keys are left alone.
-/

namespace ApiStubs.Settings

open ApiStubs.Toml

/-- The text under a key of the outermost table, if it is there. -/
def textOf (entries : Entries) (key : String) : Except Toml.Fault (Option String) :=
  match findEntry key entries with
  | none => .ok none
  | some (.value (.text s)) => .ok (some s)
  | some _ => .error (.wrongKind key)

/-- The settings of the outermost table. -/
def ofEntries (entries : Entries) : Except Toml.Fault Settings :=
  match textOf entries "backend" with
  | .error e => .error e
  | .ok backend =>
    match textOf entries "template_dir" with
    | .error e => .error e
    | .ok templateDir =>
      match textOf entries "log_level" with
      | .error e => .error e
      | .ok logLevel =>
        match textOf entries "output_dir" with
        | .error e => .error e
        | .ok outputDir =>
          .ok {
            backend := backend.getD standard.backend
            templateDir := templateDir
            logLevel := logLevel.getD standard.logLevel
            outputDir := outputDir.getD standard.outputDir }

/-- The settings of a document. -/
def ofToml (document : String) : Except Failure Settings :=
  match entriesOfDocument document with
  | .error e => .error (.settings (.toml e))
  | .ok entries =>
    match ofEntries entries with
    | .error e => .error (.settings (.toml e))
    | .ok settings => .ok settings

end ApiStubs.Settings
