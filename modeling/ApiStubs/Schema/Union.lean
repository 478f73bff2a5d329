import ApiStubs.Data.Revision
import ApiStubs.Schema.Basic
import ApiStubs.Target.Language
import ApiStubs.Text.Split

/-!
# The union of error shapes

A service may name a message whose fields list the shapes its errors take.  The languages generated
for have no tagged union, so every message that is one of the shapes gets a field that tells it
apart.
-/

namespace ApiStubs

namespace Union

/-- The field that tells the members of the union apart. -/
def discriminant : Field := ⟨"kind", "kind", "string", .optional, "", SortedMap.empty⟩

/-- The fields of the first message with the name of the common error. -/
def errorFields? (messages : List Message) (commonError : String) : Option (List Field) :=
  (messages.find? (fun m => m.name == commonError)).map Message.fields

/-- The types of the members, in field order; none when no such message is there. -/
def members (language : Language) (messages : List Message) (commonError : Option String) :
    List String :=
  match commonError with
  | none => []
  | some name =>
    match errorFields? messages name with
    | none => []
    | some fields => fields.map fun f => language.nativeType f.dataType

/-- A message with the discriminant if its type is one of the members. -/
def tag (language : Language) (memberTypes : List String) (message : Message) : Revision Message :=
  if memberTypes.contains (language.nativeType message.name) then
    .changed (message.append discriminant)
  else .kept message

/-- Every message, the members of the union with their discriminant. -/
def tagAll (language : Language) (messages : List Message) (commonError : Option String) :
    List (Revision Message) :=
  messages.map (tag language (members language messages commonError))

/-- What templates are told about the common error. -/
structure Summary where
  hasCommonError : Bool
  commonError : String
  /-- the member types, each after a bar -/
  subTypes : String
  deriving DecidableEq, Repr, Inhabited

/-- The summary for a list of messages. -/
def summary (language : Language) (messages : List Message) (commonError : Option String) :
    Summary where
  hasCommonError := commonError.isSome
  commonError := commonError.getD ""
  subTypes := Text.concat ((members language messages commonError).map fun m => " | " ++ m)

end Union

end ApiStubs
