import ApiStubs.Settings.Resolve

/-!
# Arguments of the command line

A command and its options.  An option is given once, as `--name value`, `--name=value`, `-n value`,
`-n=value` or `-nvalue`; a value of its own argument may not look like an option.
-/

namespace ApiStubs.CommandLine

/-- What `generate` is asked to do. -/
structure Order where
  flags : Settings.Flags
  /-- where the description is read from -/
  input : Option String
  /-- the settings file -/
  config : Option String
  deriving DecidableEq, Repr, Inhabited

/-- The order without any options. -/
def Order.blank : Order := ⟨Settings.Flags.none, none, none⟩

/-- Standard input as a path. -/
def standardInput : String := "-"

/-- Where the description is read from. -/
def Order.source (order : Order) : String := order.input.getD standardInput

/-- What the command line asks for. -/
inductive Command where
  | generate (order : Order)
  | backends
  | templates
  | version
  | help
  deriving DecidableEq, Repr, Inhabited

/-- The options of `generate`. -/
inductive OptionName where
  | lang
  | input
  | output
  | templateDir
  | config
  | logLevel
  deriving DecidableEq, Repr, Inhabited

namespace OptionName

/-- The option with a long name. -/
def ofLong? (name : String) : Option OptionName :=
  if name = "lang" then some .lang
  else if name = "input" then some .input
  else if name = "output" then some .output
  else if name = "template-dir" then some .templateDir
  else if name = "config" then some .config
  else if name = "log-level" then some .logLevel
  else none

/-- The option with a letter. -/
def ofLetter? (letter : Char) : Option OptionName :=
  if letter = 'l' then some .lang
  else if letter = 'i' then some .input
  else if letter = 'o' then some .output
  else if letter = 't' then some .templateDir
  else if letter = 'c' then some .config
  else none

/-- Whether the value is a path, which is never empty. -/
def isPath : OptionName → Bool
  | .lang => false
  | .logLevel => false
  | _ => true

end OptionName

/-- The value of an option. -/
def Order.get (order : Order) : OptionName → Option String
  | .lang => order.flags.backend
  | .input => order.input
  | .output => order.flags.outputDir
  | .templateDir => order.flags.templateDir
  | .config => order.config
  | .logLevel => order.flags.logLevel

/-- The order with an option put in. -/
def Order.set (order : Order) (name : OptionName) (value : String) : Order :=
  match name with
  | .lang => { order with flags := { order.flags with backend := some value } }
  | .input => { order with input := some value }
  | .output => { order with flags := { order.flags with outputDir := some value } }
  | .templateDir => { order with flags := { order.flags with templateDir := some value } }
  | .config => { order with config := some value }
  | .logLevel => { order with flags := { order.flags with logLevel := some value } }

/-- The order with an option, unless it was given before or its value is refused. -/
def Order.give (order : Order) (name : OptionName) (value : String) : Option Order :=
  if (order.get name).isSome || (name.isPath && value = "") then none
  else some (order.set name value)

/-- One argument, by its shape. -/
inductive Shape where
  /-- `--` -/
  | rest
  /-- `--name` or `--name=value` -/
  | long (name : String) (value : Option String)
  /-- `-n`, `-nvalue` or `-n=value` -/
  | short (letter : Char) (value : Option String)
  /-- anything else -/
  | plain
  deriving DecidableEq, Repr

/-- The shape of an argument. -/
def shape (argument : String) : Shape :=
  match argument.toList with
  | ['-', '-'] => .rest
  | '-' :: '-' :: body =>
    match Text.splitOnce '=' body with
    | none => .long (String.ofList body) none
    | some (name, value) => .long (String.ofList name) (some (String.ofList value))
  | ['-', letter] => .short letter none
  | '-' :: letter :: '=' :: value => .short letter (some (String.ofList value))
  | '-' :: letter :: value => .short letter (some (String.ofList value))
  | _ => .plain

/-- What an argument of `generate` asks for. -/
inductive Wish where
  | help
  /-- an option, with its value if that is attached -/
  | option (name : OptionName) (value : Option String)
  /-- no more options -/
  | stop
  /-- nothing that is known -/
  | unknown
  deriving DecidableEq, Repr

/-- What an argument of `generate` asks for. -/
def wish (argument : String) : Wish :=
  match shape argument with
  | .plain => .unknown
  | .rest => .stop
  | .long name value =>
    if name = "help" then if value.isNone then .help else .unknown
    else
      match OptionName.ofLong? name with
      | none => .unknown
      | some option => .option option value
  | .short letter value =>
    if letter = 'h' then .help
    else
      match OptionName.ofLetter? letter with
      | none => .unknown
      | some option => .option option value

/-- The options of `generate`; none if they are refused. -/
def readOptions (order : Order) : List String → Option Command
  | [] => some (.generate order)
  | argument :: rest =>
    match wish argument with
    | .unknown => none
    | .help => some .help
    | .stop => if rest.isEmpty then some (.generate order) else none
    | .option name (some value) =>
      match order.give name value with
      | none => none
      | some next => readOptions next rest
    | .option name none =>
      match rest with
      | [] => none
      | value :: more =>
        if shape value = .plain then
          match order.give name value with
          | none => none
          | some next => readOptions next more
        else none

/-- A command that takes no options. -/
def readBare (command : Command) : List String → Option Command
  | [] => some command
  | argument :: rest =>
    match shape argument with
    | .rest => if rest.isEmpty then some command else none
    | .long name value => if name = "help" && value.isNone then some .help else none
    | .short letter _ => if letter = 'h' then some .help else none
    | .plain => none

/-- The names of the commands. -/
def commandNames : List String := ["generate", "backends", "templates", "help"]

/-- The command line; none if it is refused. -/
def readCommand : List String → Option Command
  | [] => none
  | argument :: rest =>
    if argument = "generate" then readOptions Order.blank rest
    else if argument = "backends" then readBare .backends rest
    else if argument = "templates" then readBare .templates rest
    else if argument = "help" then
      match rest with
      | [] => some .help
      | [topic] => if commandNames.contains topic then some .help else none
      | _ => none
    else
      match shape argument with
      | .long name value =>
        if value.isSome then none
        else if name = "version" then some .version
        else if name = "help" then some .help
        else none
      | .short letter _ =>
        if letter = 'V' then some .version
        else if letter = 'h' then some .help
        else none
      | _ => none

end ApiStubs.CommandLine
