import ApiStubs.Generator
import ApiStubs.Proofs.Builtin.Go
import ApiStubs.Proofs.Builtin.Java
import ApiStubs.Proofs.Builtin.Php
import ApiStubs.Proofs.Builtin.Typescript
import ApiStubs.Proofs.OutputFiles

/-!
# The files of the built-in templates

With the built-in templates every backend loads, and every file that it plans renders, whatever the
description.  So a run is decided by the names of its files alone: it collects its pages.
-/

namespace ApiStubs

open Template

/-! ## Loading -/

/-- The built-in templates, compiled, under their keys. -/
def builtinTrees : List (String × List Stmt) := [
  ("echo/objs.go.j2", Go.Tree.types),
  ("echo/service.go.j2", Go.Tree.server),
  ("php/client.php.j2", Php.Tree.client),
  ("spring/enum.java.j2", Java.Tree.enumeration),
  ("spring/service.java.j2", Java.Tree.controller),
  ("spring/struct.java.j2", Java.Tree.message),
  ("ts/helper.ts.j2", Typescript.Tree.helper),
  ("ts/objs.ts.j2", Typescript.Tree.types),
  ("ts/service_axios.ts.j2", Typescript.Tree.axiosClient),
  ("ts/service_fetch.ts.j2", Typescript.Tree.fetchClient)]

/-- The compiled built-in template under a key. -/
def builtinTree? (key : String) : Option (List Stmt) :=
  (builtinTrees.find? fun entry => entry.1 == key).map (·.2)

theorem builtinTree?_of_mem {entry : String × List Stmt} (h : entry ∈ builtinTrees) :
    builtinTree? entry.1 = some entry.2 := by
  simp only [builtinTrees, List.mem_cons, List.not_mem_nil, or_false] at h
  rcases h with rfl | rfl | rfl | rfl | rfl | rfl | rfl | rfl | rfl | rfl <;>
    simp [builtinTree?, builtinTrees]

theorem normalize?_builtin : ∀ key ∈ Asset.Builtin.keys, Asset.normalize? key = some key := by
  decide +kernel

theorem get_builtin {key source : String} (h : Asset.Builtin.text? key = some source) :
    Asset.Store.builtin.get key = .ok source := by
  have hkey : key ∈ Asset.Builtin.keys := by
    obtain ⟨entry, hentry, -⟩ := Option.map_eq_some_iff.1 h
    have hname := List.find?_some hentry
    exact List.mem_map.2 ⟨entry, List.mem_of_find?_eq_some hentry, by simpa using hname⟩
  simp [Asset.Store.get, normalize?_builtin key hkey, h]

/-- Every built-in template is there and compiles to its tree. -/
theorem compiled_builtin {key : String} {stmts : List Stmt} (h : builtinTree? key = some stmts) :
    ∃ source, Asset.Store.builtin.get key = .ok source ∧ parse source.toList = .ok stmts := by
  obtain ⟨entry, hentry, rfl⟩ := Option.map_eq_some_iff.1 h
  have hmem := List.mem_of_find?_eq_some hentry
  have hname : entry.1 = key := by simpa using List.find?_some hentry
  subst hname
  simp only [builtinTrees, List.mem_cons, List.not_mem_nil, or_false] at hmem
  rcases hmem with rfl | rfl | rfl | rfl | rfl | rfl | rfl | rfl | rfl | rfl
  · exact ⟨_, get_builtin rfl, Go.parse_types⟩
  · exact ⟨_, get_builtin rfl, Go.parse_server⟩
  · exact ⟨_, get_builtin rfl, Php.parse_client⟩
  · exact ⟨_, get_builtin rfl, Java.parse_enumeration⟩
  · exact ⟨_, get_builtin rfl, Java.parse_controller⟩
  · exact ⟨_, get_builtin rfl, Java.parse_message⟩
  · exact ⟨_, get_builtin rfl, Typescript.parse_helper⟩
  · exact ⟨_, get_builtin rfl, Typescript.parse_types⟩
  · exact ⟨_, get_builtin rfl, Typescript.parse_axiosClient⟩
  · exact ⟨_, get_builtin rfl, Typescript.parse_fetchClient⟩

/-- Built-in templates load, and their trees are found under their keys. -/
theorem loadTemplates_builtin (keys : List String) (engine : Engine jinja)
    (h : ∀ key ∈ keys, (builtinTree? key).isSome = true) :
    ∃ loaded, loadTemplates .builtin engine keys = .ok loaded ∧
      loaded.environment.language = engine.environment.language ∧
      ∀ key, loaded.environment.templates.get? key =
        if key ∈ keys then builtinTree? key else engine.environment.templates.get? key := by
  induction keys generalizing engine with
  | nil => exact ⟨engine, rfl, rfl, by simp⟩
  | cons key rest ih =>
      obtain ⟨stmts, hstmts⟩ := Option.isSome_iff_exists.1 (h key List.mem_cons_self)
      obtain ⟨source, hsource, hparse⟩ := compiled_builtin hstmts
      obtain ⟨loaded, hload, hlanguage, hget⟩ :=
        ih (engine.hold key stmts) fun k hk => h k (List.mem_cons_of_mem _ hk)
      refine ⟨loaded, ?_, hlanguage, fun k => ?_⟩
      · simp [loadTemplates, hsource, Engine.compile_of_parse hparse, hload]
      · rw [hget, Engine.hold, SortedMap.get?_insert]
        by_cases hk : key = k
        · subst hk
          simp [hstmts]
        · simp [hk, Ne.symm hk]

theorem builtinTree?_templates (backend : Backend) :
    ∀ key ∈ backend.templates, (builtinTree? key).isSome = true := by
  cases backend <;> simp [Backend.templates, builtinTree?, builtinTrees]

/-- An engine with the built-in templates of a backend. -/
structure Template.Engine.HasTemplates (engine : Engine jinja) (backend : Backend) : Prop where
  language : engine.environment.language = backend.language
  templates : ∀ key ∈ backend.templates, engine.environment.templates.get? key = builtinTree? key

theorem exists_hasTemplates (backend : Backend) :
    ∃ engine : Engine jinja, engine.HasTemplates backend ∧
      (Session.start backend).load .builtin = .ok ⟨backend, some engine⟩ := by
  obtain ⟨engine, hload, hlanguage, hget⟩ := loadTemplates_builtin backend.templates
    (Engine.empty backend.language) (builtinTree?_templates backend)
  refine ⟨engine, ⟨hlanguage, fun key hkey => by simp [hget, hkey]⟩, ?_⟩
  simp [Session.load, Session.start, hload]

/-! ## Pages -/

namespace Backend

/-- The pages of a TypeScript backend, with the text of its client. -/
def typescriptPages (client : String → String → List Method → Union.Summary → String)
    (request : Request) (service : Option Service) : List (String × String) :=
  let base := request.baseNameOf service
  let messages := flattenAll request.messages
  let summary := Union.summary .typescript messages (commonErrorOf service)
  let tagged := (Union.tagAll .typescript messages (commonErrorOf service)).map Revision.value
  (match service with
    | none => []
    | some s => [(base ++ ".ts", client base (base ++ "Objs") s.methods summary)]) ++
  [(base ++ "Objs.ts", Typescript.typesText request.enums tagged summary),
    (helperFile, Asset.linesText Asset.Builtin.Typescript.helper)]

/-- The pages of the Go backend. -/
def echoPages (request : Request) (service : Option Service) : List (String × String) :=
  let base := request.baseNameOf service
  let package := goPackage request.packageName base
  (match service with
    | none => []
    | some s => [(base ++ ".go", Go.serverText package s)]) ++
  [(base ++ "Objs.go", Go.typesText package request.enums (flattenAll request.messages))]

/-- The pages of the Java backend. -/
def springPages (request : Request) (service : Option Service) : List (String × String) :=
  let package := request.packageName
  let directory := Package.directory package
  (match service with
    | none => []
    | some s => [(classFile directory (s.name ++ "Base"), Java.controllerText package s)]) ++
  ((flattenAll request.messages).map fun m => (classFile directory m.name,
    Java.messageText package m)) ++
  (request.enums.map fun e => (classFile directory e.name, Java.enumText package e))

/-- The page of the PHP backend. -/
def phpPages (request : Request) (service : Option Service) : List (String × String) :=
  [(request.baseNameOf service ++ ".php",
    Php.clientText (Package.qualifiedName request.packageName) request.enums
      (flattenAll request.messages) service)]

/-- The files of a backend with their texts, in the order in which they are written. -/
def pages : Backend → Request → Option Service → List (String × String)
  | .axios => typescriptPages
      (Typescript.clientText Typescript.axiosPurpose Typescript.axiosPrologue
        Typescript.axiosSending)
  | .fetch => typescriptPages
      (Typescript.clientText Typescript.fetchPurpose Typescript.fetchPrologue
        Typescript.fetchSending)
  | .echo => echoPages
  | .spring => springPages
  | .php => phpPages

/-! ### TypeScript -/

section Typescript

variable (request : Request) (service : Option Service)

/-- The text of the types of a description. -/
def typesOf : String :=
  Typescript.typesText request.enums
    ((Union.tagAll .typescript (flattenAll request.messages) (commonErrorOf service)).map
      Revision.value)
    (Union.summary .typescript (flattenAll request.messages) (commonErrorOf service))

/-- The page of the client of a service. -/
def clientPage (client : String → String → List Method → Union.Summary → String) (s : Service) :
    String × String :=
  (s.name ++ ".ts", client s.name (s.name ++ "Objs") s.methods
    (Union.summary .typescript (flattenAll request.messages) s.commonError?))

theorem typescriptPages_eq (client : String → String → List Method → Union.Summary → String) :
    typescriptPages client request service = service.toList.map (clientPage request client) ++
      [(request.baseNameOf service ++ "Objs.ts", typesOf request service),
        ("helper.ts", Asset.linesText Asset.Builtin.Typescript.helper)] := by
  cases service <;> rfl

variable {request service} {client other : String → String → List Method → Union.Summary → String}

/-- Every page but that of the client is there whatever the client is. -/
theorem mem_typescriptPages {page : String × String}
    (hpage : page ∈ typescriptPages client request service)
    (hother : ∀ s ∈ service, page.1 ≠ s.name ++ ".ts") :
    page ∈ typescriptPages other request service := by
  rw [typescriptPages_eq] at hpage ⊢
  rcases List.mem_append.1 hpage with hclient | hrest
  · obtain ⟨s, hs, rfl⟩ := List.mem_map.1 hclient
    exact absurd rfl (hother s (Option.mem_toList.1 hs))
  · exact List.mem_append_right _ hrest

theorem clientPage_mem {s : Service} (h : s ∈ service) :
    clientPage request client s ∈ typescriptPages client request service := by
  rw [typescriptPages_eq]
  exact List.mem_append_left _ (List.mem_map_of_mem (Option.mem_toList.2 h))

theorem types_mem : (request.baseNameOf service ++ "Objs.ts", typesOf request service) ∈
    typescriptPages client request service := by
  rw [typescriptPages_eq]
  exact List.mem_append_right _ List.mem_cons_self

theorem helper_mem : ("helper.ts", Asset.linesText Asset.Builtin.Typescript.helper) ∈
    typescriptPages client request service := by
  rw [typescriptPages_eq]
  exact List.mem_append_right _ (List.mem_cons_of_mem _ List.mem_cons_self)

end Typescript

end Backend

/-! ## Rendering -/

/-- A sheet renders to a page. -/
def Sheet.Renders (engine : Engine jinja) (sheet : Sheet) (page : String × String) : Prop :=
  sheet.file = page.1 ∧ engine.render ⟨sheet.template⟩ sheet.context = .ok page.2

/-- Sheets that render are collected as pages. -/
theorem renderSheets_eq_addAll {engine : Engine jinja} {sheets : List Sheet}
    {pages : List (String × String)} (h : List.Forall₂ (Sheet.Renders engine) sheets pages)
    (files : OutputFiles) :
    renderSheets engine files sheets = files.addAll pages := by
  induction h generalizing files with
  | nil => rfl
  | @cons sheet page _ _ hsheet _ ih =>
      cases hinsert : files.insert page.1 page.2 <;>
        simp [renderSheets, OutputFiles.addAll, hsheet.1, hsheet.2, hinsert, ih]

/-- A template of the backend renders as its tree does. -/
theorem Template.Engine.HasTemplates.render {engine : Engine jinja} {backend : Backend}
    (h : engine.HasTemplates backend) {language : Language} {key : String} {stmts : List Stmt}
    {context : Context} {text : String} (hlanguage : backend.language = language)
    (hkey : key ∈ backend.templates) (htree : (key, stmts) ∈ builtinTrees)
    (hrender : Renders language context stmts text) :
    engine.render ⟨key⟩ context = .ok text := by
  simp [Engine.render, Environment.find, Environment.render, h.templates key hkey,
    builtinTree?_of_mem htree, h.language, hlanguage, hrender.render_eq]

theorem renders_typescript {engine : Engine jinja} {backend : Backend}
    (h : engine.HasTemplates backend) {client : String} {stmts : List Stmt}
    {text : String → String → List Method → Union.Summary → String} (request : Request)
    (service : Option Service) (hlanguage : backend.language = .typescript)
    (htemplates : backend.templates = [client, "ts/objs.ts.j2", "ts/helper.ts.j2"])
    (htree : (client, stmts) ∈ builtinTrees)
    (hclient : ∀ s messages shown,
      Renders .typescript (Backend.typescriptContext request (some s) messages shown) stmts
        (text s.name (s.name ++ "Objs") s.methods
          (Union.summary .typescript messages s.commonError?))) :
    List.Forall₂ (Sheet.Renders engine) (Backend.typescriptPlan client request service)
      (Backend.typescriptPages text request service) := by
  have htypes (messages shown : List Message) : engine.render ⟨"ts/objs.ts.j2"⟩
      (Backend.typescriptContext request service messages shown) = .ok (Typescript.typesText
        request.enums shown (Union.summary .typescript messages (Backend.commonErrorOf service))) :=
    h.render hlanguage (by simp [htemplates]) (by simp [builtinTrees]) (Typescript.renders_types ..)
  have hhelper (context : Context) : engine.render ⟨"ts/helper.ts.j2"⟩ context =
      .ok (Asset.linesText Asset.Builtin.Typescript.helper) :=
    h.render hlanguage (by simp [htemplates]) (by simp [builtinTrees])
      (Typescript.renders_helper context)
  cases service with
  | none =>
      exact .cons ⟨rfl, htypes ..⟩ (.cons ⟨rfl, hhelper _⟩ .nil)
  | some s =>
      have hservice : engine.render ⟨client⟩ (Backend.typescriptContext request (some s)
          (flattenAll request.messages) (flattenAll request.messages)) = .ok _ :=
        h.render hlanguage (by simp [htemplates]) htree (hclient ..)
      exact .cons ⟨rfl, hservice⟩ (.cons ⟨rfl, htypes ..⟩ (.cons ⟨rfl, hhelper _⟩ .nil))

theorem renders_echo {engine : Engine jinja} (h : engine.HasTemplates .echo) (request : Request)
    (service : Option Service) :
    List.Forall₂ (Sheet.Renders engine) (Backend.echoPlan request service)
      (Backend.echoPages request service) := by
  have hkeys : Backend.echo.templates = ["echo/service.go.j2", "echo/objs.go.j2"] := rfl
  have htypes (package : String) (messages : List Message) (summary : Value) :
      engine.render ⟨"echo/objs.go.j2"⟩ [
        ("enum_names", enumNamesView request.enums), ("enums", enumsView request.enums),
        ("gen", summary), ("messages", messagesView messages), ("package", .text package)] =
        .ok (Go.typesText package request.enums messages) :=
    h.render rfl (by simp [hkeys]) (by simp [builtinTrees]) (Go.renders_types ..)
  cases service with
  | none => exact .cons ⟨rfl, htypes ..⟩ .nil
  | some s =>
      have hserver (package : String) (summary : Value) :
          engine.render ⟨"echo/service.go.j2"⟩ [
            ("gen", summary), ("methods", s.routes), ("name", .text s.name),
            ("package", .text package)] = .ok (Go.serverText package s) :=
        h.render rfl (by simp [hkeys]) (by simp [builtinTrees]) (Go.renders_server ..)
      exact .cons ⟨rfl, hserver ..⟩ (.cons ⟨rfl, htypes ..⟩ .nil)

theorem renders_spring {engine : Engine jinja} (h : engine.HasTemplates .spring) (request : Request)
    (service : Option Service) :
    List.Forall₂ (Sheet.Renders engine) (Backend.springPlan request service)
      (Backend.springPages request service) := by
  have hkeys : Backend.spring.templates =
      ["spring/service.java.j2", "spring/struct.java.j2", "spring/enum.java.j2"] := rfl
  refine List.rel_append (List.rel_append ?_ ?_) ?_
  · cases service with
    | none => exact .nil
    | some s =>
        exact .cons ⟨rfl, h.render rfl (by simp [hkeys]) (by simp [builtinTrees])
          (Java.renders_controller ..)⟩ .nil
  · rw [List.forall₂_map_left_iff, List.forall₂_map_right_iff, List.forall₂_same]
    intro m _
    exact ⟨rfl, h.render rfl (by simp [hkeys]) (by simp [builtinTrees]) (Java.renders_message ..)⟩
  · rw [List.forall₂_map_left_iff, List.forall₂_map_right_iff, List.forall₂_same]
    intro e _
    exact ⟨rfl, h.render rfl (by simp [hkeys]) (by simp [builtinTrees])
      (Java.renders_enumeration ..)⟩

theorem renders_php {engine : Engine jinja} (h : engine.HasTemplates .php) (request : Request)
    (service : Option Service) :
    List.Forall₂ (Sheet.Renders engine) (Backend.phpPlan request service)
      (Backend.phpPages request service) := by
  have hkeys : Backend.php.templates = ["php/client.php.j2"] := rfl
  exact .cons ⟨rfl, h.render rfl (by simp [hkeys]) (by simp [builtinTrees])
    (Php.renders_client ..)⟩ .nil

/-- Every planned file renders to its page. -/
theorem renders_plan {engine : Engine jinja} {backend : Backend} (h : engine.HasTemplates backend)
    (request : Request) (service : Option Service) :
    List.Forall₂ (Sheet.Renders engine) (backend.plan request service)
      (backend.pages request service) := by
  cases backend with
  | axios =>
      exact renders_typescript h request service rfl rfl
        (by simp [builtinTrees, Typescript.Tree.axiosClient])
        fun s messages shown => Typescript.renders_client Typescript.sends_axios ..
  | fetch =>
      exact renders_typescript h request service rfl rfl
        (by simp [builtinTrees, Typescript.Tree.fetchClient])
        fun s messages shown => Typescript.renders_client Typescript.sends_fetch ..
  | echo => exact renders_echo h request service
  | spring => exact renders_spring h request service
  | php => exact renders_php h request service

/-- With the built-in templates, a run for a backend collects the pages of the backend. -/
theorem generate_builtin_of_found {name : String} {backend : Backend} {request : Request}
    {service : Option Service} (hfound : Registry.standard.find name = .ok backend)
    (hservice : request.services = service.toList) :
    (Generator.standard .builtin).generate name request =
      OutputFiles.empty.addAll (backend.pages request service) := by
  obtain ⟨engine, hhas, hload⟩ := exists_hasTemplates backend
  have hfew : ¬ 1 < request.services.length := by
    rw [hservice]
    cases service <;> simp
  have hrun : request.service = .ok service := by
    unfold Request.service
    rw [hservice]
    cases service <;> rfl
  simp [Generator.generate, Generator.standard, hfew, hfound, hload, Session.generate, hrun,
    renderSheets_eq_addAll (renders_plan hhas request service)]

end ApiStubs
