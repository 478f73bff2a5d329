import ApiStubs.Proofs.Interfaces

/-!
# The file of TypeScript types

What the file of types says, written from the description alone: an enumeration for every
enumeration, an interface for every message, and the type of error shapes if the common error of the
service has fields.  Types are named without the package of the message that mentions them.  The
interface of a message ends with the discriminant exactly when the type of error shapes lists the
message.
-/

namespace ApiStubs

/-! ## The common error -/

/-- The message that the service names as its common error: the first one of that name. -/
def Request.errorRoot? (request : Request) : Option Message :=
  match Backend.commonErrorOf request.services.head? with
  | none => none
  | some error => request.messages.find? fun m => m.name == error

/-- The types that the fields of the common error list, in order. -/
def Request.errorShapes (request : Request) : List String :=
  match request.errorRoot? with
  | none => []
  | some root => root.fields.map (root.typeIn .typescript)

theorem Request.errorRoot?_eq_some_iff {request : Request} {root : Message} :
    request.errorRoot? = some root ↔
      Backend.commonErrorOf request.services.head? = some root.name ∧
        Union.IsFirstNamed request.messages root.name root := by
  unfold Request.errorRoot?
  constructor
  · intro hroot
    split at hroot
    · cases hroot
    · rename_i error herror
      obtain ⟨before, after, hsplit, rfl, hbefore⟩ := Union.find?_eq_some_iff.1 hroot
      exact ⟨herror, before, after, hsplit, rfl, hbefore⟩
  · rintro ⟨herror, hfirst⟩
    rw [herror]
    exact Union.find?_eq_some_iff.2 hfirst

/-- Flattening keeps names, and so the message that is found under a name. -/
theorem find?_flattenAll (messages : List Message) (name : String) :
    (flattenAll messages).find? (fun m => m.name == name) =
      (messages.find? fun m => m.name == name).map fun m => m.flatten.value := by
  simp only [flattenAll, List.find?_map, Function.comp_def, Message.name_flatten]

/-- The members of the union are the types that the common error lists. -/
theorem Request.members_eq_errorShapes (request : Request) :
    Union.members .typescript (flattenAll request.messages)
      (Backend.commonErrorOf request.services.head?) = request.errorShapes := by
  unfold Union.members Union.errorFields? Request.errorShapes Request.errorRoot?
  cases Backend.commonErrorOf request.services.head? with
  | none => rfl
  | some error =>
    simp only [find?_flattenAll]
    cases request.messages.find? fun m => m.name == error with
    | none => rfl
    | some root =>
      simp only [Option.map_some, Message.fields_flatten, List.map_map]
      rfl

/-- A message is a shape of the common error if its name is spelt like a type that the error
lists. -/
theorem Request.isErrorShape_iff {request : Request} {typeName : String} :
    request.IsErrorShape typeName ↔
      Language.typescript.nativeType typeName ∈ request.errorShapes := by
  rw [← request.members_eq_errorShapes]
  exact Union.mem_members_iff.symm

/-! ## The blocks of the file -/

namespace Typescript

/-- The lines of a field of a message: its comment, if it has one, and the property. -/
def propertyLines (m : Message) (f : Field) : String :=
  Text.concat [
    if f.comment = "" then "" else Text.concat ["    /** ", f.comment, " */\n"],
    "    ", f.name, ": ", m.typeIn .typescript f, if f.label = .repeated then "[]" else "", ";\n"]

/-- The interface of a message, which the discriminant may end. -/
def interfaceBlock (m : Message) (tagged : Bool) : String :=
  Text.concat [
    "\nexport interface ", m.name, " \x7b\n", Text.concat (m.fields.map (propertyLines m)),
    if tagged = true then "    kind: string;\n" else "", "\x7d\n"]

/-- The type of error shapes under the name of the common error. -/
def shapesBlock (error : String) (shapes : List String) : String :=
  Text.concat [
    "\n/** Error shapes a service call may reject with, told apart by `kind`. */\nexport type ",
    error, "Union =", Text.concat (shapes.map (" | " ++ ·)), ";\n"]

/-- A message as the file shows it is written as the interface of the message. -/
theorem messageBlock_shown (request : Request) (m : Message) :
    messageBlock (request.shown m) = interfaceBlock m (decide (request.IsErrorShape m.name)) := by
  have hfields : (request.shown m).fields = m.fields.map m.localField ++
      if request.IsErrorShape m.name then [Union.discriminant] else [] := by
    rw [Request.shown, Union.fields_tag, Message.name_flatten, Message.fields_flatten]
    rfl
  have hproperties : (m.fields.map m.localField).map fieldLines = m.fields.map (propertyLines m) :=
    List.map_map ..
  have hkind : fieldLines Union.discriminant = "    kind: string;\n" := by decide +kernel
  rw [messageBlock, Request.name_shown, hfields, List.map_append, hproperties, interfaceBlock]
  by_cases hshape : request.IsErrorShape m.name
  · simp [hshape, hkind, Text.concat_append, Text.concat, String.append_assoc]
  · simp [hshape, Text.concat]

end Typescript

/-- The type of error shapes of a description, if its common error has fields. -/
def Request.shapesText (request : Request) : String :=
  match request.errorRoot? with
  | none => ""
  | some root =>
    if root.fields = [] then ""
    else Typescript.shapesBlock root.name (root.fields.map (root.typeIn .typescript))

/-- The file of types of a description. -/
def Request.typesText (request : Request) : String :=
  Text.concat [
    Typescript.heading, Text.concat (request.enums.map Typescript.enumBlock),
    Text.concat (request.messages.map fun m =>
      Typescript.interfaceBlock m (decide (request.IsErrorShape m.name))),
    request.shapesText]

/-- The list of shapes is not empty as a text if it is not empty. -/
theorem Text.concat_bars_eq_empty_iff {shapes : List String} :
    Text.concat (shapes.map (" | " ++ ·)) = "" ↔ shapes = [] := by
  cases shapes with
  | nil => simp [Text.concat]
  | cons shape rest => simp [Text.concat]

/-- What the summary says about the common error is written as the type of error shapes. -/
theorem Request.unionBlock_summary (request : Request) :
    Typescript.unionBlock (Union.summary .typescript (flattenAll request.messages)
      (Backend.commonErrorOf request.services.head?)) = request.shapesText := by
  have hshapes : (Union.summary .typescript (flattenAll request.messages)
      (Backend.commonErrorOf request.services.head?)).subTypes =
        Text.concat (request.errorShapes.map (" | " ++ ·)) := by
    rw [← request.members_eq_errorShapes]
    rfl
  unfold Typescript.unionBlock Request.shapesText
  simp only [hshapes, Text.concat_bars_eq_empty_iff]
  cases hroot : request.errorRoot? with
  | none => simp [Request.errorShapes, hroot]
  | some root =>
    obtain ⟨herror, -⟩ := Request.errorRoot?_eq_some_iff.1 hroot
    simp [Request.errorShapes, hroot, herror, Union.summary, Typescript.shapesBlock,
      Typescript.unionHeading]

/-- There is a type of error shapes exactly when the common error names a message that has
fields. -/
theorem Request.shapesText_ne_empty_iff (request : Request) :
    request.shapesText ≠ "" ↔ ∃ root, request.errorRoot? = some root ∧ root.fields ≠ [] := by
  unfold Request.shapesText
  cases request.errorRoot? with
  | none => simp
  | some root =>
    by_cases hfields : root.fields = []
    · simp [hfields]
    · simp [hfields, Typescript.shapesBlock, Text.concat]

theorem Request.typesOf_eq_typesText (request : Request) :
    Backend.typesOf request request.services.head? = request.typesText := by
  rw [Request.typesOf_eq, Typescript.typesText, request.unionBlock_summary, List.map_map,
    Request.typesText]
  simp only [Function.comp_def, Typescript.messageBlock_shown]

/-! ## The file of a run -/

/-- A run for a TypeScript client, which ends with files unless the service has the name of the
shared file, writes the file of types of the description.  An interface in it ends with the
discriminant if and only if the name of the message, as the language spells it, is among the types
that the type of error shapes lists, and that one is there if and only if the common error names a
message that has fields. -/
theorem typescript_types_text {name : String} {backend : Backend} {request : Request}
    (hname : (name, backend) ∈ typescriptBackends) (hservices : request.services.length ≤ 1) :
    ((∃ files, (Generator.standard .builtin).generate name request = .ok files) ↔
      ∀ s ∈ request.services, s.name ≠ "helper") ∧
    (∀ files, (Generator.standard .builtin).generate name request = .ok files →
      files.get? (request.baseNameOf request.services.head? ++ "Objs.ts") =
        some request.typesText) ∧
    (∀ m ∈ request.messages, request.IsErrorShape m.name ↔
      ∃ root, request.errorRoot? = some root ∧
        Language.typescript.nativeType m.name ∈ root.fields.map (root.typeIn .typescript)) ∧
    (request.shapesText ≠ "" ↔ ∃ root, request.errorRoot? = some root ∧ root.fields ≠ []) := by
  have hservice := services_eq_toList_head? hservices
  refine ⟨?_, fun files hfiles => ?_, fun m _ => ?_, request.shapesText_ne_empty_iff⟩
  · rw [exists_typescript_files_iff hname hservice]
    constructor
    · intro hother s hs
      rw [hservice] at hs
      exact hother s (Option.mem_toList.1 hs)
    · intro hother s hs
      exact hother s (List.mem_of_head? hs)
  · rw [← request.typesOf_eq_typesText]
    exact get?_types_of_generate hname hservice hfiles
  · rw [Request.isErrorShape_iff, Request.errorShapes]
    cases request.errorRoot? with
    | none => simp
    | some root => simp

/-- The file of types of a shop whose faults are denials. -/
theorem typescript_types_text_shop :
    ("ts", Backend.axios) ∈ typescriptBackends ∧ denyingShop.services.length ≤ 1 ∧
    ∃ files, (Generator.standard .builtin).generate "ts" denyingShop = .ok files ∧
      files.get? "ShopObjs.ts" = some (Asset.linesText [
        "/**",
        " * This file is generated by 'protoapi'",
        " * It contains the data structures used by the generated TypeScript client.",
        " * DO NOT EDIT.",
        " */",
        "",
        "export enum Kind \x7b",
        "    NEW = -1,",
        "    USED = 2,",
        "\x7d",
        "",
        "export interface Item \x7b",
        "    /** what it is */",
        "    kind: Kind[];",
        "\x7d",
        "",
        "export interface Fault \x7b",
        "    denied: Denied;",
        "\x7d",
        "",
        "export interface Denied \x7b",
        "    reason: Reason;",
        "    code: number;",
        "    kind: string;",
        "\x7d",
        "",
        "/** Error shapes a service call may reject with, told apart by `kind`. */",
        "export type FaultUnion = | Denied;"]) := by
  have hname : ("ts", Backend.axios) ∈ typescriptBackends := by decide
  have hservices : denyingShop.services.length ≤ 1 := by decide
  obtain ⟨hends, htypes, -, -⟩ := typescript_types_text hname hservices
  obtain ⟨files, hrun⟩ := hends.2 (by decide)
  refine ⟨hname, hservices, files, hrun, (htypes files hrun).trans (congrArg some ?_)⟩
  decide +kernel

end ApiStubs
