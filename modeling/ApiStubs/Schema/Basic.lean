import ApiStubs.Data.SortedMap

/-!
# API descriptions

What a stub is generated from: a request lists services with their methods, messages with their
fields, and enumerations.  Services, methods, fields and the request itself carry free-form options.
-/

namespace ApiStubs

/-- Free-form options: texts under text keys. -/
abbrev Options : Type := SortedMap String

/-- How often a field occurs. -/
inductive Label where
  | optional
  | required
  | repeated
  deriving DecidableEq, Repr, Inhabited

namespace Label

/-- The name of the label in a description. -/
def name : Label → String
  | .optional => "LABEL_OPTIONAL"
  | .required => "LABEL_REQUIRED"
  | .repeated => "LABEL_REPEATED"

/-- The labels under their names. -/
def known : List (String × Label) :=
  [(optional.name, optional), (required.name, required), (repeated.name, repeated)]

/-- Whether the field holds a list. -/
def isRepeated (label : Label) : Bool := label == .repeated

end Label

/-- A field of a message. -/
structure Field where
  name : String
  /-- the name of the field on the wire -/
  key : String
  /-- the type, possibly qualified by a package -/
  dataType : String
  label : Label
  comment : String
  options : Options
  deriving DecidableEq, Repr, Inhabited

namespace Field

/-- An optional field whose wire name is its name. -/
def ofType (name dataType : String) : Field :=
  ⟨name, name, dataType, .optional, "", SortedMap.empty⟩

end Field

/-- A message: a named list of fields. -/
structure Message where
  name : String
  fields : List Field
  label : Label
  package : String
  deriving DecidableEq, Repr, Inhabited

namespace Message

/-- A message in no package. -/
def ofFields (name : String) (fields : List Field) : Message :=
  ⟨name, fields, .optional, ""⟩

/-- The message with one more field at the end. -/
def append (message : Message) (field : Field) : Message :=
  { message with fields := message.fields ++ [field] }

/-- The first field with a name. -/
def field? (message : Message) (name : String) : Option Field :=
  message.fields.find? (fun f => f.name == name)

/-- Whether some field holds a list. -/
def hasList (message : Message) : Bool :=
  message.fields.any (fun f => f.label.isRepeated)

end Message

/-- A named constant of an enumeration. -/
structure EnumValue where
  name : String
  value : Int32
  deriving DecidableEq, Repr, Inhabited

/-- An enumeration. -/
structure Enumeration where
  name : String
  values : List EnumValue
  deriving DecidableEq, Repr, Inhabited

/-- A method of a service. -/
structure Method where
  name : String
  inputType : String
  outputType : String
  options : Options
  deriving DecidableEq, Repr, Inhabited

namespace Method

/-- The option that names the HTTP verb. -/
def verbOption : String := "service_method"

/-- The option that names the error type. -/
def errorOption : String := "error"

/-- The verb of a method that names none. -/
def defaultVerb : String := "POST"

/-- The HTTP verb. -/
def verb (method : Method) : String := (method.options.get? verbOption).getD defaultVerb

/-- The error type, empty when there is none. -/
def errorType (method : Method) : String := (method.options.get? errorOption).getD ""

end Method

/-- A service. -/
structure Service where
  name : String
  methods : List Method
  options : Options
  deriving DecidableEq, Repr, Inhabited

namespace Service

/-- The option that names the message whose fields are the error shapes of the service. -/
def commonErrorOption : String := "common_error"

/-- The name of the common error message. -/
def commonError? (service : Service) : Option String := service.options.get? commonErrorOption

end Service

/-- A whole description. -/
structure Request where
  applicationName : String
  packageName : String
  services : List Service
  messages : List Message
  enums : List Enumeration
  options : Options
  /-- settings passed along with the description -/
  parameter : Option String
  deriving DecidableEq, Repr, Inhabited

namespace Request

/-- The description of nothing. -/
def empty : Request := ⟨"", "", [], [], [], SortedMap.empty, none⟩

end Request

end ApiStubs
