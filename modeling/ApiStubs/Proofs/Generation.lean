import ApiStubs.Data.Lists
import ApiStubs.Proofs.Builtin.Pages

/-!
# What a run with the built-in templates does

A run fails only for its number of services, for the name of its backend, or because two of its
files have one name.  Which names the files have follows from the description without rendering
anything.
-/

namespace ApiStubs

/-! ## Backends by name -/

/-- The names of the standard backends. -/
def standardBackends : List (String × Backend) := [
  ("ts", .axios), ("ts-axios", .axios), ("ts-fetch", .fetch), ("echo", .echo), ("spring", .spring),
  ("php", .php)]

theorem echo_mem_standardBackends : ("echo", Backend.echo) ∈ standardBackends := by decide

theorem spring_mem_standardBackends : ("spring", Backend.spring) ∈ standardBackends := by decide

theorem php_mem_standardBackends : ("php", Backend.php) ∈ standardBackends := by decide

theorem find_standard {name : String} {backend : Backend} (h : (name, backend) ∈ standardBackends) :
    Registry.standard.find name = .ok backend := by
  simp only [standardBackends, List.mem_cons, Prod.mk.injEq, List.not_mem_nil, or_false] at h
  rcases h with ⟨rfl, rfl⟩ | ⟨rfl, rfl⟩ | ⟨rfl, rfl⟩ | ⟨rfl, rfl⟩ | ⟨rfl, rfl⟩ | ⟨rfl, rfl⟩ <;>
    decide +kernel

theorem find_other {name : String} (h : name ∉ standardBackends.map (·.1)) :
    Registry.standard.find name = .error (.unknownBackend name) := by
  simp only [standardBackends, List.map_cons, List.map_nil, List.mem_cons, List.not_mem_nil,
    or_false, not_or] at h
  have hget : Registry.standard.backends.get? name = none := by
    simp [Registry.standard, SortedMap.ofList, SortedMap.insertAll,
      SortedMap.get?_insert, eq_comm, h]
  simp [Registry.find, hget]

/-! ## Planned names -/

/-- The classes of a Java backend: the base class of the service, the messages and the
enumerations. -/
def classNames (request : Request) (service : Option Service) : List String :=
  service.toList.map (fun s => s.name ++ "Base") ++ request.messages.map Message.name ++
    request.enums.map Enumeration.name

/-- The file of a class in the directory of a package. -/
def classPath (request : Request) (className : String) : String :=
  let directory := Package.directory request.packageName
  (if directory = "" then "" else directory ++ "/") ++ className ++ ".java"

/-- The names of the files of a backend, in the order in which they are written. -/
def plannedNames (request : Request) (service : Option Service) : Backend → List String
  | .axios => typescriptNames
  | .fetch => typescriptNames
  | .echo => service.toList.map (fun _ => base ++ ".go") ++ [base ++ "Objs.go"]
  | .spring => (classNames request service).map (classPath request)
  | .php => [base ++ ".php"]
where
  /-- What the names start with. -/
  base : String := request.baseNameOf service
  /-- The names of the TypeScript files. -/
  typescriptNames : List String :=
    service.toList.map (fun _ => base ++ ".ts") ++ [base ++ "Objs.ts", "helper.ts"]

theorem Message.name_flatten (m : Message) : m.flatten.value.name = m.name := by
  unfold Message.flatten
  split <;> rfl

theorem classFile_eq_classPath (request : Request) (className : String) :
    Backend.classFile (Package.directory request.packageName) className =
      classPath request className := by
  unfold Backend.classFile classPath
  dsimp only
  split <;> simp

/-- The pages of a backend have the planned names. -/
theorem map_fst_pages (backend : Backend) (request : Request) (service : Option Service) :
    (backend.pages request service).map (·.1) = plannedNames request service backend := by
  cases backend with
  | axios => cases service <;> rfl
  | fetch => cases service <;> rfl
  | echo => cases service <;> rfl
  | php => rfl
  | spring =>
      cases service <;>
        simp [Backend.pages, Backend.springPages, plannedNames, classNames, flattenAll,
          Function.comp_def, Message.name_flatten, classFile_eq_classPath]

/-! ## Repeated names -/

theorem nodup_echo (request : Request) (service : Option Service) :
    (plannedNames request service .echo).Nodup := by
  cases service <;> simp [plannedNames]

theorem classPath_injective (request : Request) : Function.Injective (classPath request) := by
  intro a b h
  simpa [classPath] using h

theorem nodup_spring_iff (request : Request) (service : Option Service) :
    (plannedNames request service .spring).Nodup ↔ (classNames request service).Nodup :=
  List.nodup_map_iff (classPath_injective request)

/-- The names of the TypeScript files differ unless the service has the name of the shared file. -/
theorem nodup_typescript_iff (request : Request) (service : Option Service) :
    (plannedNames.typescriptNames request service).Nodup ↔ ∀ s ∈ service, s.name ≠ "helper" := by
  have hobjects (base : String) : base ++ "Objs.ts" ≠ "helper.ts" := by
    intro h
    have hlist := congrArg (fun s : String => s.toList.reverse) h
    simp at hlist
  cases service with
  | none => simp [plannedNames.typescriptNames, hobjects]
  | some s =>
      have hname : s.name ++ ".ts" = "helper.ts" ↔ s.name = "helper" := by
        have hsplit : "helper.ts" = "helper" ++ ".ts" := rfl
        rw [hsplit, String.append_left_inj]
      simp [plannedNames.typescriptNames, plannedNames.base, Request.baseNameOf, hobjects, hname]

/-! ## Runs -/

section Runs

variable {name : String} {backend : Backend} {request : Request} {service : Option Service}

theorem services_eq_toList_head? {request : Request} (h : request.services.length ≤ 1) :
    request.services = request.services.head?.toList := by
  match hservices : request.services with
  | [] => rfl
  | [_] => rfl
  | _ :: _ :: _ => simp [hservices] at h

/-- Files with different names are all written. -/
theorem generate_of_nodup (hname : (name, backend) ∈ standardBackends)
    (hservice : request.services = service.toList)
    (hnames : (plannedNames request service backend).Nodup) :
    ∃ files, (Generator.standard .builtin).generate name request = .ok files ∧
      files.names.Perm (plannedNames request service backend) := by
  have hfresh : ((backend.pages request service).map (·.1) ++ OutputFiles.empty.names).Nodup := by
    rw [map_fst_pages]
    simpa [OutputFiles.names_empty] using hnames
  obtain ⟨files, hfiles, hperm⟩ := OutputFiles.addAll_of_nodup hfresh
  refine ⟨files, ?_, ?_⟩
  · rw [generate_builtin_of_found (find_standard hname) hservice, hfiles]
  · rw [map_fst_pages] at hperm
    simpa [OutputFiles.names_empty] using hperm

/-- The first name that was given out before ends the run. -/
theorem generate_of_repeat (hname : (name, backend) ∈ standardBackends)
    (hservice : request.services = service.toList)
    (hnames : ¬ (plannedNames request service backend).Nodup) :
    ∃ before file after, plannedNames request service backend = before ++ file :: after ∧
      before.Nodup ∧ file ∈ before ∧
      (Generator.standard .builtin).generate name request = .error (.duplicateOutput file) := by
  obtain ⟨before, file, after, hsplit, hbefore, hfile⟩ := Lists.exists_repeat_of_not_nodup hnames
  refine ⟨before, file, after, hsplit, hbefore, hfile, ?_⟩
  have hpages : (backend.pages request service).map (·.1) = before ++ file :: after := by
    rw [map_fst_pages, hsplit]
  rw [generate_builtin_of_found (find_standard hname) hservice]
  apply OutputFiles.addAll_of_repeat hpages
  · simpa [OutputFiles.names_empty] using hbefore
  · simpa [OutputFiles.names_empty] using hfile

/-- A run ends with files exactly when the planned names are different. -/
theorem exists_files_iff (hname : (name, backend) ∈ standardBackends)
    (hservice : request.services = service.toList) :
    (∃ files, (Generator.standard .builtin).generate name request = .ok files) ↔
      (plannedNames request service backend).Nodup := by
  constructor
  · rintro ⟨files, hfiles⟩
    refine Decidable.not_not.1 fun hrepeat => ?_
    obtain ⟨_, _, _, _, _, _, herror⟩ := generate_of_repeat hname hservice hrepeat
    rw [hfiles] at herror
    cases herror
  · intro hnames
    obtain ⟨files, hfiles, _⟩ := generate_of_nodup hname hservice hnames
    exact ⟨files, hfiles⟩

end Runs

/-- With the built-in templates, a run is decided by the number of services, the name of the backend
and the names of the planned files.  More than one service is refused whatever the backend, then a
name that stands for no backend.  Otherwise the run writes exactly the planned files if their names
are different, and else fails at the first name that was given out before.  So the TypeScript
backends fail just for a service with the name of the shared file, the Java backend just for two
classes of one name, and the others never. -/
theorem generate_builtin (name : String) (request : Request) :
    (1 < request.services.length →
      (Generator.standard .builtin).generate name request =
        .error (.tooManyServices request.services.length)) ∧
    (request.services.length ≤ 1 → name ∉ standardBackends.map (·.1) →
      (Generator.standard .builtin).generate name request = .error (.unknownBackend name)) ∧
    (request.services.length ≤ 1 → ∀ backend, (name, backend) ∈ standardBackends →
      ((plannedNames request request.services.head? backend).Nodup →
        ∃ files, (Generator.standard .builtin).generate name request = .ok files ∧
          files.names.Perm (plannedNames request request.services.head? backend)) ∧
      (¬ (plannedNames request request.services.head? backend).Nodup →
        ∃ before file after,
          plannedNames request request.services.head? backend = before ++ file :: after ∧
          before.Nodup ∧ file ∈ before ∧
          (Generator.standard .builtin).generate name request = .error (.duplicateOutput file)) ∧
      ((∃ files, (Generator.standard .builtin).generate name request = .ok files) ↔
        match backend with
        | .axios | .fetch => ∀ service ∈ request.services, service.name ≠ "helper"
        | .spring => (classNames request request.services.head?).Nodup
        | .echo | .php => True)) := by
  refine ⟨fun hmany => ?_, fun hfew hunknown => ?_, fun hfew backend hname => ?_⟩
  · simp [Generator.generate, hmany]
  · simp [Generator.generate, Generator.standard, hfew, find_other hunknown]
  · have hservice := services_eq_toList_head? hfew
    refine ⟨generate_of_nodup hname hservice, generate_of_repeat hname hservice, ?_⟩
    have htypescript : (∀ service ∈ request.services, service.name ≠ "helper") ↔
        ∀ service ∈ request.services.head?, service.name ≠ "helper" := by
      rw [hservice]
      simp
    rw [exists_files_iff hname hservice]
    cases backend with
    | axios => exact (nodup_typescript_iff ..).trans htypescript.symm
    | fetch => exact (nodup_typescript_iff ..).trans htypescript.symm
    | echo => simp [nodup_echo]
    | spring => exact nodup_spring_iff ..
    | php => simp [plannedNames]

/-- Two services are too many for any backend, an unknown name is refused, and a service that is
called like the shared TypeScript file leaves no files, while the Go backend writes both of its
own. -/
theorem generate_builtin_refusals :
    let shared : Service := ⟨"helper", [], SortedMap.empty⟩
    let crowded : Request := { Request.empty with services := [shared, shared] }
    let single : Request := { Request.empty with services := [shared] }
    (1 < crowded.services.length ∧
      (Generator.standard .builtin).generate "none" crowded = .error (.tooManyServices 2)) ∧
    (single.services.length ≤ 1 ∧ "none" ∉ standardBackends.map (·.1) ∧
      (Generator.standard .builtin).generate "none" single = .error (.unknownBackend "none")) ∧
    (("ts", Backend.axios) ∈ standardBackends ∧
      ¬ ∃ files, (Generator.standard .builtin).generate "ts" single = .ok files) ∧
    (("echo", Backend.echo) ∈ standardBackends ∧
      ∃ files, (Generator.standard .builtin).generate "echo" single = .ok files ∧
        files.names.Perm ["helper.go", "helperObjs.go"]) := by
  intro shared crowded single
  have hfew : single.services.length ≤ 1 := by decide
  have hmany : 1 < crowded.services.length := by decide
  have hunknown : "none" ∉ standardBackends.map (·.1) := by decide
  have hknown : ("ts", Backend.axios) ∈ standardBackends := by decide
  refine ⟨⟨hmany, (generate_builtin "none" crowded).1 hmany⟩,
    ⟨hfew, hunknown, (generate_builtin "none" single).2.1 hfew hunknown⟩, ⟨hknown, ?_⟩,
    echo_mem_standardBackends, ?_⟩
  · rw [((generate_builtin "ts" single).2.2 hfew .axios hknown).2.2]
    decide
  · exact ((generate_builtin "echo" single).2.2 hfew .echo echo_mem_standardBackends).1 (by decide)

end ApiStubs
