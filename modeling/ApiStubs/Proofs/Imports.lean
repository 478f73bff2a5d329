import ApiStubs.Proofs.Generation
import ApiStubs.Proofs.Schema.Union
import ApiStubs.Proofs.Template.Mentions
import ApiStubs.Proofs.Text.Pieces

/-!
# What a TypeScript client imports

A client imports the types of its methods and the common error of its service from the file of
types.  It imports no name twice, and every name that the description gives to a message or an
enumeration is declared there.  A common error that names nothing in the description is imported all
the same.
-/

namespace ApiStubs

/-! ## Imported names -/

/-- The names that the client of a service imports: the types of its methods in the order in which
they are mentioned first, and then the common error if it is not one of them. -/
def Service.importNames (s : Service) : List String :=
  Typescript.importedNames s.methods ++
    s.commonError?.toList.filter (· ∉ Typescript.importedNames s.methods)

namespace Typescript

open Template

/-- The names are the input and output types of the methods without their repetitions. -/
theorem importedNames_eq (methods : List Method) :
    importedNames methods = (methods.flatMap fun m => [m.inputType, m.outputType]).eraseDups := by
  have hmaps : ∀ v ∈ methods.map Method.view, v.kind = .map := List.forall_mem_map.2 fun _ _ => rfl
  have hnames : (typeMembers (methods.map Method.view)).map Prod.snd =
      (methods.flatMap fun m => [m.inputType, m.outputType]).map .text := by
    simp [typeMembers, List.flatMap_map, List.map_flatMap, Method.view, findEntry]
  have hcollect := collectTypes_names hmaps hnames []
  exact Except.ok.inj ((collectTypes_views methods []).symm.trans hcollect)

theorem nodup_importedNames (methods : List Method) : (importedNames methods).Nodup := by
  rw [importedNames_eq]
  exact Lists.nodup_eraseDups _

theorem mem_importedNames {methods : List Method} {name : String} :
    name ∈ importedNames methods ↔ ∃ m ∈ methods, name = m.inputType ∨ name = m.outputType := by
  rw [importedNames_eq, List.mem_eraseDups]
  simp

end Typescript

namespace Service

theorem nodup_importNames (s : Service) : s.importNames.Nodup := by
  refine (Typescript.nodup_importedNames s.methods).append ?_ ?_
  · cases s.commonError? with
    | none => exact List.nodup_nil
    | some error => exact (List.nodup_singleton error).filter _
  · intro name hname hextra
    exact of_decide_eq_true (List.mem_filter.1 hextra).2 hname

theorem mem_importNames {s : Service} {name : String} :
    name ∈ s.importNames ↔
      (∃ m ∈ s.methods, name = m.inputType ∨ name = m.outputType) ∨ s.commonError? = some name := by
  rw [← Typescript.mem_importedNames, importNames, List.mem_append, List.mem_filter,
    Option.mem_toList, decide_eq_true_iff]
  exact ⟨.imp_right And.left, fun h => h.elim .inl fun herror =>
    (Decidable.em (name ∈ Typescript.importedNames s.methods)).imp id (.intro herror)⟩

end Service

/-! ## The import list and the declarations -/

namespace Typescript

/-- The statement that imports names from a file next to the client. -/
def importBlock (file : String) (names : List String) : String :=
  Text.concat ["import \x7b\n", Text.concat (names.map importLine), "\x7d from './", file, "';\n"]

/-- A text imports just these names from a file next to it. -/
def ImportsFrom (text file : String) (names : List String) : Prop :=
  Text.Occurs (importBlock file names) text

/-- A text declares a name as an interface or an enumeration. -/
def Declares (text name : String) : Prop :=
  Text.Occurs (Text.concat ["\nexport interface ", name, " \x7b\n"]) text ∨
    Text.Occurs (Text.concat ["\nexport enum ", name, " \x7b\n"]) text

theorem errorImport_eq (language : Language) (messages : List Message) (error : Option String)
    (imported : List String) :
    errorImport (Union.summary language messages error) imported =
      Text.concat ((error.toList.filter (· ∉ imported)).map importLine) := by
  cases error with
  | none => rfl
  | some error =>
      by_cases himported : error ∈ imported
      · simp [errorImport, Union.summary, himported, Text.concat]
      · simp [errorImport, Union.summary, himported, Text.concat]

/-- A client imports the names of its service from the file of types. -/
theorem importsFrom_clientText {purpose prologue : String}
    (hprologue : Text.StartsWith prologue "';\n") (sending : Method → String)
    (className objects : String) (language : Language) (messages : List Message) (s : Service) :
    ImportsFrom (clientText purpose prologue sending className objects s.methods
      (Union.summary language messages s.commonError?)) objects s.importNames := by
  obtain ⟨rest, rfl⟩ := hprologue
  refine ⟨clientHeading ++ className ++ purpose, rest ++ Text.concat (s.methods.map
    (functionBlock sending className (Union.summary language messages s.commonError?))), ?_⟩
  simp only [clientText, importBlock, errorImport_eq, Service.importNames, List.map_append,
    Text.concat_append, Text.concat, String.append_assoc, String.append_empty]

section Declared

variable {enums : List Enumeration} {messages : List Message} (summary : Union.Summary)

theorem declares_of_message {m : Message} (h : m ∈ messages) :
    Declares (typesText enums messages summary) m.name := by
  have hblock : Text.Occurs (Text.concat ["\nexport interface ", m.name, " \x7b\n"])
      (messageBlock m) :=
    ⟨"", Text.concat (m.fields.map fieldLines) ++ "\x7d\n", by
      simp only [messageBlock, Text.concat, String.append_assoc, String.append_empty,
        String.empty_append]⟩
  have hblocks := hblock.concat_of_mem (List.mem_map_of_mem h)
  exact .inl (hblocks.concat_of_mem (by simp))

theorem declares_of_enumeration {e : Enumeration} (h : e ∈ enums) :
    Declares (typesText enums messages summary) e.name := by
  have hblock : Text.Occurs (Text.concat ["\nexport enum ", e.name, " \x7b\n"]) (enumBlock e) :=
    ⟨"", Text.concat (e.values.map constantLine) ++ "\x7d\n", by
      simp only [enumBlock, Text.concat, String.append_assoc, String.append_empty,
        String.empty_append]⟩
  have hblocks := hblock.concat_of_mem (List.mem_map_of_mem h)
  exact .inr (hblocks.concat_of_mem (by simp))

end Declared

end Typescript

/-- The names that a description gives to its messages and enumerations. -/
def Request.typeNames (request : Request) : List String :=
  request.messages.map Message.name ++ request.enums.map Enumeration.name

/-- The file of types declares every name of the description. -/
theorem declares_typesOf {request : Request} (service : Option Service) {name : String}
    (h : name ∈ request.typeNames) :
    Typescript.Declares (Backend.typesOf request service) name := by
  rcases List.mem_append.1 h with hmessage | henum
  · obtain ⟨m, hm, rfl⟩ := List.mem_map.1 hmessage
    -- flattening and tagging change what a message holds but not its name
    have hname : (Union.tag .typescript (Union.members .typescript (flattenAll request.messages)
        (Backend.commonErrorOf service)) m.flatten.value).value.name = m.name := by
      rw [Union.name_tag, Message.name_flatten]
    rw [← hname]
    refine Typescript.declares_of_message _ (List.mem_map_of_mem (List.mem_map_of_mem ?_))
    exact List.mem_map_of_mem hm
  · obtain ⟨e, he, rfl⟩ := List.mem_map.1 henum
    exact Typescript.declares_of_enumeration _ he

/-! ## Runs -/

/-- The TypeScript clients by the names of their backends. -/
def typescriptBackends : List (String × Backend) := [
  ("ts", .axios), ("ts-axios", .axios), ("ts-fetch", .fetch)]

theorem mem_standardBackends {entry : String × Backend} (h : entry ∈ typescriptBackends) :
    entry ∈ standardBackends := by
  have hsubset : ∀ entry ∈ typescriptBackends, entry ∈ standardBackends := by decide
  exact hsubset entry h

theorem startsWith_axiosPrologue : Text.StartsWith Typescript.axiosPrologue "';\n" := by
  unfold Typescript.axiosPrologue
  exact (Text.StartsWith.of_toList (by decide +kernel)).append _

theorem startsWith_fetchPrologue : Text.StartsWith Typescript.fetchPrologue "';\n" := by
  unfold Typescript.fetchPrologue
  iterate 6 refine Text.StartsWith.append ?_ _
  exact .of_toList (by decide +kernel)

/-- The clients of both transports have one form, in which the imports end with the name of a
file. -/
theorem exists_clientText {name : String} {backend : Backend}
    (h : (name, backend) ∈ typescriptBackends) :
    ∃ purpose prologue sending, Text.StartsWith prologue "';\n" ∧
      backend.pages = Backend.typescriptPages (Typescript.clientText purpose prologue sending) := by
  simp only [typescriptBackends, List.mem_cons, Prod.mk.injEq, List.not_mem_nil, or_false] at h
  rcases h with ⟨-, rfl⟩ | ⟨-, rfl⟩ | ⟨-, rfl⟩
  · exact ⟨_, _, _, startsWith_axiosPrologue, rfl⟩
  · exact ⟨_, _, _, startsWith_axiosPrologue, rfl⟩
  · exact ⟨_, _, _, startsWith_fetchPrologue, rfl⟩

section Runs

variable {name : String} {backend : Backend} {request : Request} {service : Option Service}
  {s : Service}

/-- A run for a client ends with files unless its service, if there is one, has the name of the
shared file. -/
theorem exists_typescript_files_iff (hname : (name, backend) ∈ typescriptBackends)
    (hservice : request.services = service.toList) :
    (∃ files, (Generator.standard .builtin).generate name request = .ok files) ↔
      ∀ s ∈ service, s.name ≠ "helper" := by
  have hnames : plannedNames request service backend =
      plannedNames.typescriptNames request service := by
    simp only [typescriptBackends, List.mem_cons, Prod.mk.injEq, List.not_mem_nil, or_false]
      at hname
    rcases hname with ⟨-, rfl⟩ | ⟨-, rfl⟩ | ⟨-, rfl⟩ <;> rfl
  rw [exists_files_iff (mem_standardBackends hname) hservice, hnames, nodup_typescript_iff]

theorem exists_files_typescript_iff (hname : (name, backend) ∈ typescriptBackends)
    (hservice : request.services = [s]) :
    (∃ files, (Generator.standard .builtin).generate name request = .ok files) ↔
      s.name ≠ "helper" := by
  have hsome : request.services = (some s).toList := hservice
  simp [exists_typescript_files_iff hname hsome]

/-- The file of types among the files of a run. -/
theorem get?_types_of_generate (hname : (name, backend) ∈ typescriptBackends)
    (hservice : request.services = service.toList) {files : OutputFiles}
    (hfiles : (Generator.standard .builtin).generate name request = .ok files) :
    files.get? (request.baseNameOf service ++ "Objs.ts") =
      some (Backend.typesOf request service) := by
  obtain ⟨_, _, _, -, hpages⟩ := exists_clientText hname
  rw [generate_builtin_of_found (find_standard (mem_standardBackends hname)) hservice, hpages]
    at hfiles
  exact OutputFiles.get?_addAll hfiles Backend.types_mem

/-- The files of a run for a client: the client imports the names of the service from the file of
types. -/
theorem get?_of_generate (hname : (name, backend) ∈ typescriptBackends)
    (hservice : request.services = [s]) {files : OutputFiles}
    (hfiles : (Generator.standard .builtin).generate name request = .ok files) :
    (∃ client, files.get? (s.name ++ ".ts") = some client ∧
      Typescript.ImportsFrom client (s.name ++ "Objs") s.importNames) ∧
    files.get? (s.name ++ "Objs.ts") = some (Backend.typesOf request (some s)) := by
  have hsome : request.services = (some s).toList := hservice
  refine ⟨?_, get?_types_of_generate hname hsome hfiles⟩
  obtain ⟨purpose, prologue, sending, hprologue, hpages⟩ := exists_clientText hname
  rw [generate_builtin_of_found (find_standard (mem_standardBackends hname)) hsome, hpages]
    at hfiles
  exact ⟨_, OutputFiles.get?_addAll hfiles (Backend.clientPage_mem rfl),
    Typescript.importsFrom_clientText hprologue ..⟩

end Runs

/-- A client imports each name once: the types of its methods, which the file of types all declares,
and the common error of its service.  So a name that is imported and not declared can only be a
common error that names neither a message nor an enumeration of the description. -/
theorem client_imports {name : String} {backend : Backend} {request : Request} {s : Service}
    (hname : (name, backend) ∈ typescriptBackends) (hservice : request.services = [s])
    (hmethods : ∀ m ∈ s.methods, m.inputType ∈ request.typeNames ∧
      m.outputType ∈ request.typeNames) :
    ((∃ files, (Generator.standard .builtin).generate name request = .ok files) ↔
      s.name ≠ "helper") ∧
    ∀ files, (Generator.standard .builtin).generate name request = .ok files →
      ∃ client types, files.get? (s.name ++ ".ts") = some client ∧
        files.get? (s.name ++ "Objs.ts") = some types ∧
        Typescript.ImportsFrom client (s.name ++ "Objs") s.importNames ∧ s.importNames.Nodup ∧
        (∀ imported, imported ∈ s.importNames ↔
          (∃ m ∈ s.methods, imported = m.inputType ∨ imported = m.outputType) ∨
            s.commonError? = some imported) ∧
        ∀ imported ∈ s.importNames, Typescript.Declares types imported ∨
          s.commonError? = some imported ∧ imported ∉ request.typeNames := by
  refine ⟨exists_files_typescript_iff hname hservice, fun files hfiles => ?_⟩
  obtain ⟨⟨client, hclient, himports⟩, htypes⟩ := get?_of_generate hname hservice hfiles
  refine ⟨client, _, hclient, htypes, himports, s.nodup_importNames,
    fun imported => Service.mem_importNames, fun imported himported => ?_⟩
  by_cases hknown : imported ∈ request.typeNames
  · exact .inl (declares_typesOf _ hknown)
  · rcases Service.mem_importNames.1 himported with ⟨m, hm, rfl | rfl⟩ | herror
    · exact absurd (hmethods m hm).1 hknown
    · exact absurd (hmethods m hm).2 hknown
    · exact .inr ⟨herror, hknown⟩

/-- A shop with one method on items, whose common error is called a fault. -/
def faultyShop : Service :=
  ⟨"Shop", [⟨"find", "Item", "Item", SortedMap.empty⟩],
    SortedMap.ofList [("common_error", "Fault")]⟩

/-- With a message for the fault, the client of the shop imports two names and both are declared. -/
theorem client_imports_shop :
    let request : Request :=
      { Request.empty with
        services := [faultyShop], messages :=
          [Message.ofFields "Item" [], Message.ofFields "Fault" []] }
    ("ts-fetch", Backend.fetch) ∈ typescriptBackends ∧ request.services = [faultyShop] ∧
    (∀ m ∈ faultyShop.methods, m.inputType ∈ request.typeNames ∧ m.outputType ∈ request.typeNames) ∧
    ∃ files client types, (Generator.standard .builtin).generate "ts-fetch" request = .ok files ∧
      files.get? (faultyShop.name ++ ".ts") = some client ∧
      files.get? (faultyShop.name ++ "Objs.ts") = some types ∧
      Typescript.ImportsFrom client "ShopObjs" ["Item", "Fault"] ∧
      Typescript.Declares types "Item" ∧ Typescript.Declares types "Fault" := by
  intro request
  have hname : ("ts-fetch", Backend.fetch) ∈ typescriptBackends := by decide
  have hservice : request.services = [faultyShop] := rfl
  have hmethods : ∀ m ∈ faultyShop.methods,
      m.inputType ∈ request.typeNames ∧ m.outputType ∈ request.typeNames := by decide
  have hnames : faultyShop.importNames = ["Item", "Fault"] := by decide
  obtain ⟨hends, hfiles⟩ := client_imports hname hservice hmethods
  obtain ⟨files, hrun⟩ := hends.2 (by decide)
  obtain ⟨client, types, hclient, htypes, himports, -, -, hdeclared⟩ := hfiles files hrun
  rw [hnames] at himports hdeclared
  refine ⟨hname, hservice, hmethods, files, client, types, hrun, hclient, htypes, himports, ?_, ?_⟩
  · exact (hdeclared "Item" (by decide)).resolve_right fun h => h.2 (by decide)
  · exact (hdeclared "Fault" (by decide)).resolve_right fun h => h.2 (by decide)

/-- Without a message for the fault, the client of the shop imports it from a file that does not
declare it. -/
theorem client_imports_undeclared :
    let request : Request :=
      { Request.empty with services := [faultyShop], messages := [Message.ofFields "Item" []] }
    (∀ m ∈ faultyShop.methods, m.inputType ∈ request.typeNames ∧ m.outputType ∈ request.typeNames) ∧
    ∀ name backend, (name, backend) ∈ typescriptBackends →
      ∃ files client types, (Generator.standard .builtin).generate name request = .ok files ∧
        files.get? (faultyShop.name ++ ".ts") = some client ∧
        files.get? (faultyShop.name ++ "Objs.ts") = some types ∧
        Typescript.ImportsFrom client "ShopObjs" ["Item", "Fault"] ∧
        ¬ Typescript.Declares types "Fault" := by
  intro request
  refine ⟨by decide, fun name backend hname => ?_⟩
  have hservice : request.services = [faultyShop] := rfl
  have hnames : faultyShop.importNames = ["Item", "Fault"] := by decide
  obtain ⟨files, hrun⟩ := (exists_files_typescript_iff hname hservice).2 (by decide)
  obtain ⟨⟨client, hclient, himports⟩, htypes⟩ := get?_of_generate hname hservice hrun
  rw [hnames] at himports
  refine ⟨files, client, _, hrun, hclient, htypes, himports, ?_⟩
  -- no declaration has the name, for its first letter is nowhere in the file
  have hletter : 'F' ∉ (Backend.typesOf request (some faultyShop)).toList := by decide +kernel
  rintro (hinterface | henum)
  · exact hletter (hinterface.toList_subset (by decide +kernel))
  · exact hletter (henum.toList_subset (by decide +kernel))

end ApiStubs
