import ApiStubs.Logging.Level

/-!
# Settings of a run
-/

namespace ApiStubs

/-- The settings of a run. -/
structure Settings where
  /-- the name of the backend -/
  backend : String
  /-- where templates are read from, if not the built-in ones -/
  templateDir : Option String
  /-- the word for the log level -/
  logLevel : String
  /-- where files are written -/
  outputDir : String
  deriving DecidableEq, Repr

namespace Settings

/-- The settings when nothing is said. -/
def standard : Settings := ⟨"ts", none, "info", "."⟩

instance : Inhabited Settings := ⟨standard⟩

/-- The log level that the settings ask for. -/
def level (settings : Settings) : Except Failure LogLevel := LogLevel.ofText settings.logLevel

/-- The settings by name. -/
inductive Key where
  | backend
  | templateDir
  | logLevel
  | outputDir
  deriving DecidableEq, Repr, Inhabited

/-- The settings with one of them changed. -/
def set (settings : Settings) : Key → String → Settings
  | .backend, value => { settings with backend := value }
  | .templateDir, value => { settings with templateDir := some value }
  | .logLevel, value => { settings with logLevel := value }
  | .outputDir, value => { settings with outputDir := value }

end Settings

end ApiStubs
