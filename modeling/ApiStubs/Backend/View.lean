import ApiStubs.Schema.Union
import ApiStubs.Template.Value
import ApiStubs.Text.Casing

/-!
# What templates see of a description

Every part of a description as a template value.  Members stand in the order in which the part has
them, which printing a whole part shows; a map that `dict` makes of it has them in the order of
their names.
-/

namespace ApiStubs

open Template

/-- A map from names to values. -/
abbrev Context : Type := List (String × Value)

/-- Options as a value. -/
def optionsView (options : Options) : Value :=
  .map (options.toList.map fun entry => (entry.1, .text entry.2))

/-- A field as a value. -/
def Field.view (f : Field) : Value :=
  .map [
    ("name", .text f.name), ("key", .text f.key), ("data_type", .text f.dataType),
    ("label", .text f.label.name), ("comment", .text f.comment), ("options", optionsView f.options)]

/-- A message as a value. -/
def Message.view (m : Message) : Value :=
  .map [
    ("name", .text m.name), ("fields", .list (m.fields.map Field.view)),
    ("label", .text m.label.name), ("package", .text m.package)]

/-- A constant as a value. -/
def EnumValue.view (v : EnumValue) : Value :=
  .map [("name", .text v.name), ("value", .int .signed64 v.value.toInt)]

/-- An enumeration as a value. -/
def Enumeration.view (e : Enumeration) : Value :=
  .map [("name", .text e.name), ("fields", .list (e.values.map EnumValue.view))]

/-- A method as a value. -/
def Method.view (m : Method) : Value :=
  .map [
    ("name", .text m.name), ("input_type", .text m.inputType), ("output_type", .text m.outputType),
    ("options", optionsView m.options)]

namespace Method

/-- The name of a method as a type or exported function. -/
def title (m : Method) : String := Text.capitalize m.name

/-- The path under which a service serves the method. -/
def path (m : Method) (service : String) : String := "/" ++ service ++ "." ++ m.name

/-- A method as a value, with what follows from its options and its service. -/
def routeView (m : Method) (service : String) : Value :=
  .map [
    ("name", .text m.name), ("input_type", .text m.inputType), ("output_type", .text m.outputType),
    ("options", optionsView m.options), ("title", .text m.title), ("path", .text (m.path service)),
    ("service_type", .text m.verb), ("error_type", .text m.errorType)]

end Method

/-- The methods of a service as values. -/
def Service.routes (s : Service) : Value :=
  .list (s.methods.map fun m => m.routeView s.name)

/-- The summary of the common error as a value. -/
def Union.Summary.view (s : Union.Summary) : Value :=
  .map [
    ("has_common_error", .bool s.hasCommonError), ("common_error", .text s.commonError),
    ("common_error_sub_types", .text s.subTypes)]

/-- Messages as a value. -/
def messagesView (messages : List Message) : Value := .list (messages.map Message.view)

/-- Enumerations as a value. -/
def enumsView (enums : List Enumeration) : Value := .list (enums.map Enumeration.view)

/-- The names of enumerations as a value. -/
def enumNamesView (enums : List Enumeration) : Value := .list (enums.map fun e => .text e.name)

end ApiStubs
