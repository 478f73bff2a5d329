import ApiStubs.Disk.Host
import ApiStubs.Settings.Parameter
import ApiStubs.Settings.Toml

/-!
# Settings from several sources

A settings file, the parameter of a description and the flags of the command line can all give
settings.  Flags win over the parameter, the parameter wins over the file, and each setting is
decided on its own.
-/

namespace ApiStubs.Settings

/-- Settings given on the command line. -/
structure Flags where
  backend : Option String
  templateDir : Option String
  logLevel : Option String
  outputDir : Option String
  deriving DecidableEq, Repr, Inhabited

/-- No flags. -/
def Flags.none : Flags := ⟨Option.none, Option.none, Option.none, Option.none⟩

/-- The settings with those of the command line in their place. -/
def withFlags (settings : Settings) (flags : Flags) : Settings where
  backend := flags.backend.getD settings.backend
  templateDir := flags.templateDir.or settings.templateDir
  logLevel := flags.logLevel.getD settings.logLevel
  outputDir := flags.outputDir.getD settings.outputDir

/-- The settings after an optional parameter. -/
def withParameter (settings : Settings) : Option String → Except Failure Settings
  | none => .ok settings
  | some parameter =>
    match settings.apply parameter with
    | (after, none) => .ok after
    | (_, some e) => .error e

/-- The settings of the content of a file. -/
def ofFile (path : String) (content : Except Disk.Fault Bytes) : Except Failure Settings :=
  match content with
  | .error e => .error (.settings (.unreadable path e))
  | .ok bytes =>
    match Utf8.decode? bytes with
    | none => .error (.settings (.unreadable path .notText))
    | some document => ofToml document

variable {m : Type → Type} [Monad m] [Host m]

/-- The settings of a file. -/
def load (path : String) : m (Except Failure Settings) := do
  return ofFile path (← Host.read path)

/-- The settings of an optional file. -/
def loadOptional : Option String → m (Except Failure Settings)
  | none => pure (.ok standard)
  | some path => load path

end ApiStubs.Settings
