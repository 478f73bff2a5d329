import ApiStubs.CommandLine.Arguments
import ApiStubs.Disk.Publish
import ApiStubs.Generator
import ApiStubs.Schema.Decode

/-!
# Running a command

`generate` goes through five stages: reading the description, resolving the settings, checking the
log level, generating, writing.  The first stage that fails ends the run, and only the last one
changes the disk.
-/

namespace ApiStubs.CommandLine

/-- Why a run ends early. -/
inductive Fault where
  /-- standard input that cannot be read -/
  | inputUnread (cause : Disk.Fault)
  /-- a description that cannot be read -/
  | requestUnread (path : String) (cause : Disk.Fault)
  /-- a description that is none -/
  | requestRefused (path : String) (cause : Json.Fault)
  /-- settings or a log level that are refused -/
  | settings (cause : Failure)
  /-- a parameter that is refused -/
  | parameter (cause : Failure)
  | generation (backend : String) (cause : Failure)
  | publishing (cause : Disk.PublishFault)
  deriving DecidableEq, Repr, Inhabited

namespace Fault

/-- The failure behind the fault, if there is one. -/
def failure? : Fault → Option Failure
  | .settings cause => some cause
  | .parameter cause => some cause
  | .generation _ cause => some cause
  | _ => none

/-- The text of the diagnostic, without what the template language has to say. -/
def headline : Fault → String
  | .inputUnread cause => "Failed to read schema request from stdin: " ++ cause.message
  | .requestUnread path cause => "Failed to read " ++ path ++ ": " ++ cause.message
  | .requestRefused path cause =>
    "Failed to parse schema request " ++ path ++ ": " ++ cause.message
  | .settings cause => cause.headline
  | .parameter cause => "Invalid compiler-plugin parameter: " ++ cause.headline
  | .generation backend cause => "Failed to generate " ++ backend ++ " output: " ++ cause.headline
  | .publishing cause => cause.message

/-- The whole text of the diagnostic. -/
def message (fault : Fault) : String :=
  match fault with
  | .settings cause => cause.message
  | .parameter cause => "Invalid compiler-plugin parameter: " ++ cause.message
  | .generation backend cause => "Failed to generate " ++ backend ++ " output: " ++ cause.message
  | _ => fault.headline

/-- The exit status of a run that ends with the fault. -/
def status (fault : Fault) : Nat :=
  match fault.failure? with
  | none => 1
  | some failure => 10 + failure.code

end Fault

variable {m : Type → Type} [Monad m] [Host m]

/-- The description at a path, where a dash stands for standard input. -/
def readRequest (path : String) : m (Except Fault Request) := do
  if Path.components path = Path.components standardInput then
    match ← Host.readInput with
    | .error e => return .error (.inputUnread e)
    | .ok bytes => return decoded bytes
  else
    match ← Host.read path with
    | .error e => return .error (.requestUnread path e)
    | .ok bytes => return decoded bytes
where
  /-- The description written in octets. -/
  decoded (bytes : Bytes) : Except Fault Request :=
    match Request.decode bytes with
    | .error e => .error (.requestRefused path e)
    | .ok request => .ok request

/-- The settings of a run: from the file, then from the parameter, then from flags. -/
def resolve (order : Order) (request : Request) : m (Except Fault Settings) := do
  match ← Settings.loadOptional order.config with
  | .error e => return .error (.settings e)
  | .ok base =>
    match base.withParameter request.parameter with
    | .error e => return .error (.parameter e)
    | .ok settings => return .ok (settings.withFlags order.flags)

/-- What a directory answers for the keys of templates. -/
def readFolder (directory : String) :
    List String → m (List (String × Except Disk.Fault Bytes))
  | [] => pure []
  | key :: rest => do
    let answer ← Host.read (Path.join directory key)
    let answers ← readFolder directory rest
    return (key, answer) :: answers

/-- Where the templates of a run come from. -/
def storeOf : Option String → m Asset.Store
  | none => pure .builtin
  | some directory => do
    return .folder (Asset.Folder.ofAnswers (← readFolder directory Asset.Builtin.keys))

/-- Everything up to the files of a run, and where they go. -/
def prepare (order : Order) : m (Except Fault (String × OutputFiles)) := do
  match ← readRequest order.source with
  | .error e => return .error e
  | .ok request =>
    match ← resolve order request with
    | .error e => return .error e
    | .ok settings =>
      match settings.level with
      | .error e => return .error (.settings e)
      | .ok _ =>
        let store ← storeOf settings.templateDir
        match (Generator.standard store).generate settings.backend request with
        | .error e => return .error (.generation settings.backend e)
        | .ok files => return .ok (settings.outputDir, files)

/-- Generate files and write them. -/
def generate (order : Order) : m (Except Fault Unit) := do
  match ← prepare order with
  | .error e => return .error e
  | .ok (directory, files) =>
    match ← Disk.publish directory files.toList with
    | .error e => return .error (.publishing e)
    | .ok _ => return .ok ()

/-- How a run ended. -/
structure Report where
  status : Nat
  output : String
  fault : Option Fault
  deriving DecidableEq, Repr, Inhabited

/-- The status of a command line that is refused. -/
def usageStatus : Nat := 2

/-- What the program calls itself. -/
def versionText : String := "protoapi 0.3.0"

/-- How the program is used. -/
def usageText : String := "Usage: protoapi <generate|backends|templates|help>"

/-- Texts on lines of their own. -/
def linesOf (texts : List String) : String := Text.concat (texts.map (· ++ "\n"))

/-- Run a command. -/
def execute : Command → m Report
  | .backends => pure ⟨0, linesOf Registry.standard.names, none⟩
  | .templates => pure ⟨0, linesOf Asset.Builtin.keys, none⟩
  | .version => pure ⟨0, versionText ++ "\n", none⟩
  | .help => pure ⟨0, usageText ++ "\n", none⟩
  | .generate order => do
    match ← generate order with
    | .error e => return ⟨e.status, "", some e⟩
    | .ok _ => return ⟨0, "", none⟩

/-- Run a command line. -/
def run (arguments : List String) : m Report :=
  match readCommand arguments with
  | none => pure ⟨usageStatus, "", none⟩
  | some command => execute command

end ApiStubs.CommandLine
