import ApiStubs.Json.Reader
import ApiStubs.Schema.Basic

/-!
# Reading a description

The layouts of the records of a description, and reading a whole request from JSON octets.
-/

namespace ApiStubs

open Json

/-- A string member. -/
def textSlot {α : Type} (name : String) (required : Bool) (set : String → α → α) : Slot α :=
  Slot.of name required (readText "a string") set

/-- An options member. -/
def optionsSlot {α : Type} (set : Options → α → α) : Slot α :=
  Slot.of "options" false readTextMap set

/-- A label member. -/
def labelSlot {α : Type} (set : Label → α → α) : Slot α :=
  Slot.of "label" false (readVariant Label.known) set

namespace Field

/-- The members of a field. -/
def layout : Layout Field where
  title := "MessageField"
  blank := ⟨"", "", "", .optional, "", SortedMap.empty⟩
  slots := [
    textSlot "name" true (fun s f => { f with name := s }),
    textSlot "key" true (fun s f => { f with key := s }),
    textSlot "data_type" true (fun s f => { f with dataType := s }),
    labelSlot (fun l f => { f with label := l }),
    textSlot "comment" false (fun s f => { f with comment := s }),
    optionsSlot (fun o f => { f with options := o })]

end Field

namespace Message

/-- The members of a message. -/
def layout : Layout Message where
  title := "MessageData"
  blank := ⟨"", [], .optional, ""⟩
  slots := [
    textSlot "name" true (fun s m => { m with name := s }),
    Slot.of "fields" false (readList Field.layout.reader) (fun fs m => { m with fields := fs }),
    labelSlot (fun l m => { m with label := l }),
    textSlot "package" false (fun s m => { m with package := s })]

end Message

namespace EnumValue

/-- The members of a constant. -/
def layout : Layout EnumValue where
  title := "EnumField"
  blank := ⟨"", 0⟩
  slots := [
    textSlot "name" true (fun s v => { v with name := s }),
    Slot.of "value" true readInt32 (fun n v => { v with value := n })]

end EnumValue

namespace Enumeration

/-- The members of an enumeration. -/
def layout : Layout Enumeration where
  title := "EnumData"
  blank := ⟨"", []⟩
  slots := [
    textSlot "name" true (fun s e => { e with name := s }),
    Slot.of "fields" false (readList EnumValue.layout.reader) (fun vs e => { e with values := vs })]

end Enumeration

namespace Method

/-- The members of a method. -/
def layout : Layout Method where
  title := "Method"
  blank := ⟨"", "", "", SortedMap.empty⟩
  slots := [
    textSlot "name" true (fun s m => { m with name := s }),
    textSlot "input_type" true (fun s m => { m with inputType := s }),
    textSlot "output_type" true (fun s m => { m with outputType := s }),
    optionsSlot (fun o m => { m with options := o })]

end Method

namespace Service

/-- The members of a service. -/
def layout : Layout Service where
  title := "ServiceData"
  blank := ⟨"", [], SortedMap.empty⟩
  slots := [
    textSlot "name" true (fun s v => { v with name := s }),
    Slot.of "methods" false (readList Method.layout.reader) (fun ms v => { v with methods := ms }),
    optionsSlot (fun o v => { v with options := o })]

end Service

namespace Request

/-- The members of a request. -/
def layout : Layout Request where
  title := "SchemaRequest"
  blank := empty
  slots := [
    textSlot "application_name" false (fun s r => { r with applicationName := s }),
    textSlot "package_name" false (fun s r => { r with packageName := s }),
    Slot.of "services" false (readList Service.layout.reader) (fun x r => { r with services := x }),
    Slot.of "messages" false (readList Message.layout.reader) (fun x r => { r with messages := x }),
    Slot.of "enums" false (readList Enumeration.layout.reader) (fun x r => { r with enums := x }),
    optionsSlot (fun o r => { r with options := o }),
    Slot.of "parameter" false (readOptional (readText "a string"))
      (fun x r => { r with parameter := x })]

/-- The request written in JSON octets. -/
def decode (bytes : Bytes) : Except Fault Request := readAll layout.reader bytes

end Request

/-- The options written in JSON octets. -/
def decodeOptions (bytes : Bytes) : Except Fault Options := readAll readTextMap bytes

end ApiStubs
