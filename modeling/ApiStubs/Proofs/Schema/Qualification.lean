import ApiStubs.Data.Lists
import ApiStubs.Generator

/-!
# Local names and qualified names

A field may name a type of its message's package with the package or without it.  Every backend
flattens the messages before it looks at them, and flattening takes the package away again, so that
the choice shows in no file and in no failure.
-/

namespace ApiStubs

namespace Package

/-- A type that can be qualified by a package without being taken for something else: the package is
not empty and does not begin with a dot, and the type is not empty and not qualified by the package
already. -/
structure Bare (package dataType : String) : Prop where
  package_ne : package ≠ ""
  package_head : package.toList.head? ≠ some '.'
  type_ne : dataType ≠ ""
  strip_eq : strip dataType package = dataType

theorem dropLeadingDot_of_head {cs : List Char} (h : cs.head? ≠ some '.') :
    dropLeadingDot cs = cs := by
  unfold dropLeadingDot
  split
  · exact absurd rfl h
  · rfl

/-- What follows the package and a dot is the type without its package. -/
theorem strip_of_dropLeadingDot {dataType package name : String} (hpackage : package ≠ "")
    (hname : name ≠ "")
    (h : dropLeadingDot dataType.toList = package.toList ++ '.' :: name.toList) :
    strip dataType package = name := by
  obtain ⟨c, rest, hlist⟩ := List.exists_cons_of_ne_nil (String.toList_eq_nil_iff.not.2 hname)
  unfold strip
  rw [if_neg hpackage, h, Text.afterLead?_append, hlist]
  exact (congrArg String.ofList hlist).symm.trans (String.ofList_toList ..)

namespace Bare

variable {package dataType : String} (h : Bare package dataType)

include h

/-- A type after its package is stripped to the type. -/
theorem strip_qualified : strip (package ++ "." ++ dataType) package = dataType := by
  apply strip_of_dropLeadingDot h.package_ne h.type_ne
  obtain ⟨c, rest, hlist⟩ :=
    List.exists_cons_of_ne_nil (String.toList_eq_nil_iff.not.2 h.package_ne)
  have hhead : (package ++ "." ++ dataType).toList.head? ≠ some '.' := by
    simpa [hlist] using h.package_head
  rw [dropLeadingDot_of_head hhead]
  simp

/-- So is one after a dot and its package. -/
theorem strip_rooted : strip ("." ++ package ++ "." ++ dataType) package = dataType := by
  apply strip_of_dropLeadingDot h.package_ne h.type_ne
  simp [dropLeadingDot]

end Bare

end Package

/-! ## Descriptions that differ in qualification -/

/-- The spellings of a field in a message of a package: as it is, or its type qualified by the
package, with a dot in front or without. -/
inductive Field.Qualified (package : String) (field : Field) : Field → Prop
  | same : Qualified package field field
  | qualified (h : Package.Bare package field.dataType) :
    Qualified package field { field with dataType := package ++ "." ++ field.dataType }
  | rooted (h : Package.Bare package field.dataType) :
    Qualified package field { field with dataType := "." ++ package ++ "." ++ field.dataType }

/-- The messages that differ from a message in the qualification of some fields. -/
def Message.Qualified (message other : Message) : Prop :=
  ∃ fields, List.Forall₂ (Field.Qualified message.package) message.fields fields ∧
    other = { message with fields := fields }

/-- The descriptions that differ from a description in the qualification of some fields. -/
def Request.Qualified (request other : Request) : Prop :=
  ∃ messages, List.Forall₂ Message.Qualified request.messages messages ∧
    other = { request with messages := messages }

/-! ## Flattening -/

/-- A message without qualified fields is its own flattening, so that the two cases are one. -/
theorem Message.value_flatten (message : Message) :
    message.flatten.value = { message with fields := message.fields.map message.localField } := by
  unfold Message.flatten
  split
  · rfl
  · rename_i hsame
    have hfields : message.fields.map message.localField = message.fields := by
      refine List.map_congr_left (fun f hf => ?_) |>.trans (List.map_id _)
      have hstrip : Package.strip f.dataType message.package = f.dataType := by
        simp only [List.any_eq_true, not_exists, not_and, decide_eq_true_eq, ne_eq, not_not]
          at hsame
        exact hsame f hf
      simp [localField, hstrip]
    rw [hfields]
    rfl

/-- The type of a field as a language spells it, freed of the package of the message. -/
def Message.typeIn (message : Message) (language : Language) (field : Field) : String :=
  language.nativeType (Package.strip field.dataType message.package)

theorem Message.fields_flatten (message : Message) :
    message.flatten.value.fields = message.fields.map message.localField := by
  rw [value_flatten]

theorem Field.Qualified.localField_eq {message : Message} {field other : Field}
    (h : Field.Qualified message.package field other) :
    message.localField other = message.localField field := by
  cases h with
  | same => rfl
  | qualified h => simp [Message.localField, h.strip_qualified, h.strip_eq]
  | rooted h => simp [Message.localField, h.strip_rooted, h.strip_eq]

theorem Message.Qualified.flatten_eq {message other : Message} (h : message.Qualified other) :
    other.flatten.value = message.flatten.value := by
  obtain ⟨fields, hfields, rfl⟩ := h
  have hmap : fields.map message.localField = message.fields.map message.localField :=
    Lists.map_eq_of_forall₂ (fun hfield => hfield.localField_eq) hfields
  rw [value_flatten, value_flatten, ← hmap]
  rfl

theorem Request.Qualified.flattenAll_eq {request other : Request} (h : request.Qualified other) :
    flattenAll other.messages = flattenAll request.messages := by
  obtain ⟨messages, hmessages, rfl⟩ := h
  exact Lists.map_eq_of_forall₂ Message.Qualified.flatten_eq hmessages

/-! ## Runs -/

/-- A backend plans the same files for descriptions with the same flattened messages. -/
theorem Backend.plan_congr (backend : Backend) {request : Request} {messages : List Message}
    (h : flattenAll messages = flattenAll request.messages) (service : Option Service) :
    backend.plan { request with messages := messages } service = backend.plan request service := by
  have hbase : Request.baseNameOf { request with messages := messages } service =
      request.baseNameOf service := rfl
  cases backend with
  | axios => simp only [plan, typescriptPlan, typescriptContext, hbase, h]
  | fetch => simp only [plan, typescriptPlan, typescriptContext, hbase, h]
  | echo => simp only [plan, echoPlan, hbase, h]
  | spring => simp only [plan, springPlan, h]
  | php => simp only [plan, phpPlan, hbase, h]

/-- Qualifying fields by the package of their message changes nothing of a run, neither a file nor
its text nor a failure, whatever the backend and the templates are: the messages that a backend
works on are equal. -/
theorem generate_qualified {request other : Request} (h : request.Qualified other)
    (generator : Generator) (name : String) :
    flattenAll other.messages = flattenAll request.messages ∧
      generator.generate name other = generator.generate name request := by
  have hflatten := h.flattenAll_eq
  refine ⟨hflatten, ?_⟩
  obtain ⟨messages, -, rfl⟩ := h
  have hservice : Request.service { request with messages := messages } = request.service := rfl
  have hsession (session : Session) :
      session.generate { request with messages := messages } = session.generate request := by
    simp only [Session.generate, hservice, session.backend.plan_congr hflatten]
  simp only [Generator.generate, hsession]

/-- In a message of a package, a field for a message of that package and one for a scalar may both
be qualified, each in its own way, beside one that stays. -/
theorem generate_qualified_order :
    let order : Message :=
      ⟨"Order", [.ofType "item" "Item", .ofType "note" "string", .ofType "id" "int32"],
        .optional, "shop"⟩
    let spelled : Message :=
      ⟨"Order", [.ofType "item" ".shop.Item", .ofType "note" "shop.string", .ofType "id" "int32"],
        .optional, "shop"⟩
    let request : Request := { Request.empty with messages := [order] }
    let other : Request := { Request.empty with messages := [spelled] }
    request.Qualified other ∧ other ≠ request ∧
      flattenAll other.messages = flattenAll request.messages ∧
      (Generator.standard .builtin).generate "ts" other =
        (Generator.standard .builtin).generate "ts" request := by
  intro order spelled request other
  have hitem : Package.Bare "shop" "Item" := by constructor <;> decide
  have hnote : Package.Bare "shop" "string" := by constructor <;> decide
  have horder : order.Qualified spelled :=
    ⟨spelled.fields, .cons (.rooted hitem) (.cons (.qualified hnote) (.cons .same .nil)), rfl⟩
  have hother : request.Qualified other := ⟨[spelled], .cons horder .nil, rfl⟩
  exact ⟨hother, by decide, generate_qualified hother (Generator.standard .builtin) "ts"⟩

end ApiStubs
