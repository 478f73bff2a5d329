import ApiStubs.Data.Revision
import ApiStubs.Schema.Basic
import ApiStubs.Text.Casing
import ApiStubs.Text.Split

/-!
# Packages

A package is a list of segments joined by dots.  A type that is qualified by the package of the
message that mentions it can be named without it; a package also names a directory and a namespace,
segment by segment, empty segments left out.
-/

namespace ApiStubs

namespace Package

/-- The characters after one leading dot, if there is one. -/
def dropLeadingDot : List Char → List Char
  | '.' :: rest => rest
  | cs => cs

/-- The type without the package in front of it.  A type that is not qualified by the package, or is
the package alone, stays as it is, and so does every type when the package is empty. -/
def strip (dataType package : String) : String :=
  if package = "" then dataType
  else
    match Text.afterLead? package.toList (dropLeadingDot dataType.toList) with
    | some ('.' :: c :: rest) => String.ofList (c :: rest)
    | _ => dataType

/-- What stands after the last dot. -/
def lastSegment (package : String) : String :=
  ((Text.segments '.' package).getLast?).getD package

/-- The segments that are not empty. -/
def parts (package : String) : List String :=
  (Text.segments '.' package).filter (fun s => s ≠ "")

/-- The directory of a package. -/
def directory (package : String) : String := Text.joinWith "/" (parts package)

/-- The namespace of a package, each segment capitalised. -/
def qualifiedName (package : String) : String :=
  Text.joinWith "\\" ((parts package).map Text.capitalize)

end Package

namespace Message

/-- The field with its type freed of the message's package. -/
def localField (message : Message) (field : Field) : Field :=
  { field with dataType := Package.strip field.dataType message.package }

/-- The message with every field type freed of the message's package; a message that mentions no
such type is passed on as it is. -/
def flatten (message : Message) : Revision Message :=
  if message.fields.any (fun f => Package.strip f.dataType message.package ≠ f.dataType) then
    .changed { message with fields := message.fields.map message.localField }
  else .kept message

end Message

/-- Every message flattened, in order. -/
def flattenAll (messages : List Message) : List Message :=
  messages.map fun m => m.flatten.value

end ApiStubs
