import ApiStubs.Backend.View
import ApiStubs.Schema.Package
import ApiStubs.Schema.Subject

/-!
# Backends

A backend turns a description into files for one kind of client or server.  It names the templates
it needs, in the order it loads them, and plans its files: a name, a template and what the template
sees.
-/

namespace ApiStubs

open Template

/-- The kinds of client and server that files are generated for. -/
inductive Backend where
  /-- TypeScript client on axios -/
  | axios
  /-- TypeScript client on fetch -/
  | fetch
  /-- Go server on echo -/
  | echo
  /-- Java server on spring -/
  | spring
  /-- PHP client -/
  | php
  deriving DecidableEq, Repr, Inhabited

/-- A file that a backend is going to write. -/
structure Sheet where
  file : String
  /-- the key of the template -/
  template : String
  context : Context
  deriving Repr, Inhabited

namespace Backend

/-- The name of the backend. -/
def name : Backend → String
  | .axios => "ts-axios"
  | .fetch => "ts-fetch"
  | .echo => "echo"
  | .spring => "spring"
  | .php => "php"

/-- The language of the files. -/
def language : Backend → Language
  | .axios => .typescript
  | .fetch => .typescript
  | .echo => .go
  | .spring => .java
  | .php => .php

/-- The templates that the backend needs, in the order it loads them. -/
def templates : Backend → List String
  | .axios => ["ts/service_axios.ts.j2", "ts/objs.ts.j2", "ts/helper.ts.j2"]
  | .fetch => ["ts/service_fetch.ts.j2", "ts/objs.ts.j2", "ts/helper.ts.j2"]
  | .echo => ["echo/service.go.j2", "echo/objs.go.j2"]
  | .spring => ["spring/service.java.j2", "spring/struct.java.j2", "spring/enum.java.j2"]
  | .php => ["php/client.php.j2"]

/-! ## Plans -/

/-- The common error of the service of a run. -/
def commonErrorOf (service : Option Service) : Option String :=
  match service with
  | none => none
  | some s => s.commonError?

/-- The summary of the common error for flattened messages. -/
def summaryOf (language : Language) (messages : List Message) (service : Option Service) : Value :=
  (Union.summary language messages (commonErrorOf service)).view

/-- What the TypeScript templates see. -/
def typescriptContext (request : Request) (service : Option Service)
    (messages shown : List Message) : Context :=
  let base := request.baseNameOf service
  [
    ("class_name", .text base),
    ("data_types", messagesView shown),
    ("enums", enumsView request.enums),
    ("functions", .list (match service with
      | none => []
      | some s => s.methods.map Method.view)),
    ("gen", summaryOf .typescript messages service),
    ("objs_module", .text (base ++ "Objs"))]

/-- The file that both TypeScript clients share. -/
def helperFile : String := "helper.ts"

/-- The plan of a TypeScript backend with a client template. -/
def typescriptPlan (client : String) (request : Request) (service : Option Service) : List Sheet :=
  let base := request.baseNameOf service
  let messages := flattenAll request.messages
  let tagged := (Union.tagAll .typescript messages (commonErrorOf service)).map Revision.value
  let plain := typescriptContext request service messages messages
  (match service with
    | none => []
    | some _ => [⟨base ++ ".ts", client, plain⟩]) ++
  [⟨base ++ "Objs.ts", "ts/objs.ts.j2", typescriptContext request service messages tagged⟩,
    ⟨helperFile, "ts/helper.ts.j2", plain⟩]

/-- The name of the Go package: the last segment of the package, or else the base name in lower
case. -/
def goPackage (package base : String) : String :=
  if Package.lastSegment package = "" then Text.lower base else Package.lastSegment package

/-- The plan of the Go backend. -/
def echoPlan (request : Request) (service : Option Service) : List Sheet :=
  let base := request.baseNameOf service
  let package := goPackage request.packageName base
  let messages := flattenAll request.messages
  let summary := summaryOf .go messages service
  (match service with
    | none => []
    | some s => [⟨base ++ ".go", "echo/service.go.j2", [
        ("gen", summary), ("methods", s.routes), ("name", .text s.name),
        ("package", .text package)]⟩]) ++
  [⟨base ++ "Objs.go", "echo/objs.go.j2", [
    ("enum_names", enumNamesView request.enums), ("enums", enumsView request.enums),
    ("gen", summary), ("messages", messagesView messages), ("package", .text package)]⟩]

/-- The file of a Java class in a directory. -/
def classFile (directory className : String) : String :=
  if directory = "" then className ++ ".java" else directory ++ "/" ++ className ++ ".java"

/-- The plan of the Java backend. -/
def springPlan (request : Request) (service : Option Service) : List Sheet :=
  let package := request.packageName
  let directory := Package.directory package
  let messages := flattenAll request.messages
  let summary := summaryOf .java messages service
  (match service with
    | none => []
    | some s => [⟨classFile directory (s.name ++ "Base"), "spring/service.java.j2", [
        ("gen", summary), ("methods", s.routes), ("name", .text s.name),
        ("package", .text package)]⟩]) ++
  (messages.map fun m => ⟨classFile directory m.name, "spring/struct.java.j2", [
    ("gen", summary), ("message", m.view), ("package", .text package),
    ("uses_list", .bool m.hasList)]⟩) ++
  (request.enums.map fun e => ⟨classFile directory e.name, "spring/enum.java.j2", [
    ("enum_data", e.view), ("package", .text package)]⟩)

/-- The plan of the PHP backend. -/
def phpPlan (request : Request) (service : Option Service) : List Sheet :=
  let messages := flattenAll request.messages
  [⟨request.baseNameOf service ++ ".php", "php/client.php.j2", [
    ("enum_names", enumNamesView request.enums), ("enums", enumsView request.enums),
    ("gen", summaryOf .php messages service), ("messages", messagesView messages),
    ("methods", match service with
      | none => .list []
      | some s => s.routes),
    ("namespace", .text (Package.qualifiedName request.packageName)),
    ("service", match service with
      | none => .none
      | some s => .text s.name)]⟩]

/-- The files that the backend is going to write, in order. -/
def plan : Backend → Request → Option Service → List Sheet
  | .axios => typescriptPlan "ts/service_axios.ts.j2"
  | .fetch => typescriptPlan "ts/service_fetch.ts.j2"
  | .echo => echoPlan
  | .spring => springPlan
  | .php => phpPlan

end Backend

end ApiStubs
