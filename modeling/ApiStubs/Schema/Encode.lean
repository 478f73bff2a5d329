import ApiStubs.Json.Writer
import ApiStubs.Schema.Basic

/-!
# Writing a description

Every record is written as an object with all its members, in the order of its layout; options are
written in the order of their keys.
-/

namespace ApiStubs

open Json

/-- Options as an object. -/
def encodeOptions (options : Options) : String :=
  writeObject (options.toList.map fun entry => (entry.1, writeText entry.2))

/-- A field as an object. -/
def Field.encode (f : Field) : String :=
  writeObject [
    ("name", writeText f.name), ("key", writeText f.key), ("data_type", writeText f.dataType),
    ("label", writeText f.label.name), ("comment", writeText f.comment),
    ("options", encodeOptions f.options)]

/-- A message as an object. -/
def Message.encode (m : Message) : String :=
  writeObject [
    ("name", writeText m.name), ("fields", writeList (m.fields.map Field.encode)),
    ("label", writeText m.label.name), ("package", writeText m.package)]

/-- A constant as an object. -/
def EnumValue.encode (v : EnumValue) : String :=
  writeObject [("name", writeText v.name), ("value", Text.decimal v.value.toInt)]

/-- An enumeration as an object. -/
def Enumeration.encode (e : Enumeration) : String :=
  writeObject [("name", writeText e.name), ("fields", writeList (e.values.map EnumValue.encode))]

/-- A method as an object. -/
def Method.encode (m : Method) : String :=
  writeObject [
    ("name", writeText m.name), ("input_type", writeText m.inputType),
    ("output_type", writeText m.outputType), ("options", encodeOptions m.options)]

/-- A service as an object. -/
def Service.encode (s : Service) : String :=
  writeObject [
    ("name", writeText s.name), ("methods", writeList (s.methods.map Method.encode)),
    ("options", encodeOptions s.options)]

/-- A request as an object. -/
def Request.encode (r : Request) : String :=
  writeObject [
    ("application_name", writeText r.applicationName), ("package_name", writeText r.packageName),
    ("services", writeList (r.services.map Service.encode)),
    ("messages", writeList (r.messages.map Message.encode)),
    ("enums", writeList (r.enums.map Enumeration.encode)), ("options", encodeOptions r.options),
    ("parameter", writeOptional writeText r.parameter)]

end ApiStubs
