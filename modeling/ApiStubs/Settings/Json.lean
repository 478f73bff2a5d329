import ApiStubs.Json.Reader
import ApiStubs.Settings.Basic

/-!
# Settings as JSON

An object with the settings that differ from the standard; no text at all stands for the standard.
-/

namespace ApiStubs.Settings

open ApiStubs.Json

/-- The members of settings. -/
def layout : Layout Settings where
  title := "GeneratorConfig"
  blank := standard
  slots := [
    Slot.of "backend" false (readText "a string") (fun s v => { v with backend := s }),
    Slot.of "template_dir" false (readOptional (readText "path string"))
      (fun s v => { v with templateDir := s }),
    Slot.of "log_level" false (readText "a string") (fun s v => { v with logLevel := s }),
    Slot.of "output_dir" false (readText "path string") (fun s v => { v with outputDir := s })]

/-- The settings written in JSON octets. -/
def ofJson (bytes : Bytes) : Except Failure Settings :=
  match bytes with
  | [] => .ok standard
  | _ :: _ =>
    match readAll layout.reader bytes with
    | .error e => .error (.settings (.json e))
    | .ok settings => .ok settings

end ApiStubs.Settings
