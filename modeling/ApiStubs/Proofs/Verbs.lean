import ApiStubs.Proofs.Generation
import ApiStubs.Proofs.Text.Pieces
import Mathlib.Data.Finset.Insert
import Mathlib.Data.Finset.Lattice.Lemmas

/-!
# Verbs of clients and servers

Every client sends a method under the verb that the method names, or else under POST.  Every server
binds its path under GET and under POST, one of them left out where the method names the other.  So
the two sides meet for methods that name GET, POST or no verb, and for those alone.

What a file says about verbs is read off its text: the file of a client is written with the verb of
each method as a parameter, the file of a server with the list of verbs of each method.
-/

namespace ApiStubs

/-- The verbs under which a server can bind a path. -/
inductive BoundVerb where
  | get
  | post
  deriving DecidableEq, Repr

/-- The verb as it is sent. -/
def BoundVerb.name : BoundVerb → String
  | .get => "GET"
  | .post => "POST"

/-- The verbs under which a server binds the path of a method: both, but for one that names the
other. -/
def Method.boundVerbs (m : Method) : Finset BoundVerb :=
  (if m.verb = "POST" then ∅ else {.get}) ∪ (if m.verb = "GET" then ∅ else {.post})

/-- The verbs under which a service answers at a path, when the path of each method is bound under
some. -/
def Service.verbsAt (s : Service) (bound : Method → Finset BoundVerb) (path : String) :
    Set String :=
  { verb | ∃ m ∈ s.methods, m.path s.name = path ∧ ∃ b ∈ bound m, b.name = verb }

theorem Method.get_mem_boundVerbs (m : Method) : .get ∈ m.boundVerbs ↔ m.verb ≠ "POST" := by
  unfold boundVerbs
  split <;> split <;> simp_all

theorem Method.post_mem_boundVerbs (m : Method) : .post ∈ m.boundVerbs ↔ m.verb ≠ "GET" := by
  unfold boundVerbs
  split <;> split <;> simp_all

/-! ## Clients -/

namespace Typescript

/-- The end of a function on axios that sends its parameters under a verb. -/
def axiosCall (verb : String) (m : Method) : String :=
  Text.concat [
    "    return axios.request(\x7b method: \"", verb, "\", url, ",
    if verb = "GET" then "params" else "data: params", " \x7d)\n",
    axiosResponse, m.outputType, ";\n        \x7d);\n\x7d\n"]

/-- The end of a function on fetch that sends its parameters under a verb. -/
def fetchCall (verb : String) (m : Method) : String :=
  Text.concat [
    "    return call<", m.outputType, ">(",
    if verb = "GET" then "generateQueryUrl(url, params), \x7b " else "url, \x7b\n        ",
    "method: \"", verb, if verb = "GET" then "\" \x7d);\n" else fetchBodyEnd, "\x7d\n"]

theorem axiosSending_eq (m : Method) : axiosSending m = axiosCall m.verb m := by
  by_cases hget : m.verb = "GET"
  · simp [axiosSending, axiosCall, Text.concat, hget, ← String.append_assoc]
  · simp [axiosSending, axiosCall, Text.concat, hget, Text.append_literals, String.append_assoc]

theorem fetchSending_eq (m : Method) : fetchSending m = fetchCall m.verb m := by
  by_cases hget : m.verb = "GET"
  · simp [fetchSending, fetchCall, Text.concat, hget, String.append_assoc]
  · simp [fetchSending, fetchCall, Text.concat, hget, Text.append_literals, String.append_assoc]

theorem axiosCall_ne {verb : String} (h : verb ≠ "GET") (m : Method) :
    axiosCall "GET" m ≠ axiosCall verb m := by
  intro hcall
  have hlist := congrArg (fun s : String => s.toList.reverse) hcall
  simp [axiosCall, Text.concat, h] at hlist

theorem fetchCall_ne {verb : String} (h : verb ≠ "GET") (m : Method) :
    fetchCall "GET" m ≠ fetchCall verb m := by
  intro hcall
  have hlist := congrArg String.toList hcall
  simp [fetchCall, Text.concat, h] at hlist

/-- Texts tell their verbs if those of GET differ from all others and the others tell theirs. -/
theorem injective_of_get {call : String → String}
    (hget : ∀ verb, verb ≠ "GET" → call "GET" ≠ call verb)
    (hother : ∀ v w, v ≠ "GET" → w ≠ "GET" → call v = call w → v = w) :
    Function.Injective call := by
  intro v w h
  by_cases hv : v = "GET" <;> by_cases hw : w = "GET"
  · rw [hv, hw]
  · exact absurd (hv ▸ h) (hget w hw)
  · exact absurd (hw ▸ h.symm) (hget v hv)
  · exact hother v w hv hw h

theorem axiosCall_injective (m : Method) : Function.Injective (axiosCall · m) := by
  refine injective_of_get (fun verb h => axiosCall_ne h m) fun v w hv hw h => ?_
  simpa [axiosCall, Text.concat, hv, hw] using h

theorem fetchCall_injective (m : Method) : Function.Injective (fetchCall · m) := by
  refine injective_of_get (fun verb h => fetchCall_ne h m) fun v w hv hw h => ?_
  simpa [fetchCall, Text.concat, hv, hw] using h

end Typescript

theorem Php.callUnder_injective (service : String) (m : Method) :
    Function.Injective (Php.callUnder · service m) := by
  intro v w h
  simpa [Php.callUnder, Text.concat] using h

/-- The clients. -/
inductive Client where
  | axios
  | fetch
  | php
  deriving DecidableEq, Repr

namespace Client

/-- The backend that writes the client. -/
def backend : Client → Backend
  | .axios => .axios
  | .fetch => .fetch
  | .php => .php

/-- The file that holds the client of a service. -/
def file (s : Service) : Client → String
  | .axios | .fetch => s.name ++ ".ts"
  | .php => s.name ++ ".php"

/-- What a client has in a method for sending it under a verb. -/
def call (service verb : String) (m : Method) : Client → String
  | .axios => Typescript.axiosCall verb m
  | .fetch => Typescript.fetchCall verb m
  | .php => Php.callUnder verb service m

/-- The text of the file when each method is sent under a verb of its own.  The PHP file has a class
for the client only where the service has a name. -/
def text (request : Request) (s : Service) (verb : Method → String) (client : Client) : String :=
  match client with
  | .axios => Typescript.clientText Typescript.axiosPurpose Typescript.axiosPrologue sending s.name
      (s.name ++ "Objs") s.methods summary
  | .fetch => Typescript.clientText Typescript.fetchPurpose Typescript.fetchPrologue sending s.name
      (s.name ++ "Objs") s.methods summary
  | .php => Php.clientFrame (Package.qualifiedName request.packageName) request.enums
      (flattenAll request.messages) (Php.ofService (fun _ => Php.clientImport) (some s))
      (Php.ofService (fun _ => Php.clientClass s (Text.concat (s.methods.map sending))) (some s))
where
  /-- What the client has in each method. -/
  sending (m : Method) : String := client.call s.name (verb m) m
  /-- What TypeScript clients say about the common error. -/
  summary : Union.Summary :=
    Union.summary .typescript (flattenAll request.messages) (Backend.commonErrorOf (some s))

/-- The file of a client, wherever a run with the built-in templates writes it, sends each method of
the service under a verb. -/
def Sends (client : Client) (request : Request) (s : Service) (verb : Method → String) : Prop :=
  ∀ name files, (name, client.backend) ∈ standardBackends →
    (Generator.standard .builtin).generate name request = .ok files →
    files.get? (client.file s) = some (client.text request s verb)

/-- A client sends each method under the verb that the method names. -/
theorem sends_verb (client : Client) {request : Request} {s : Service}
    (h : request.services = [s]) :
    client.Sends request s Method.verb := by
  intro name files hname hfiles
  have hservice : request.services = (some s).toList := h
  rw [generate_builtin_of_found (find_standard hname) hservice] at hfiles
  have hpage : (client.file s, client.text request s Method.verb) ∈
      client.backend.pages request (some s) := by
    cases client with
    | axios =>
        have hsending : text.sending s Method.verb .axios = Typescript.axiosSending :=
          funext fun m => (Typescript.axiosSending_eq m).symm
        simp [file, text, hsending, text.summary, backend, Backend.pages, Backend.typescriptPages,
          Request.baseNameOf]
    | fetch =>
        have hsending : text.sending s Method.verb .fetch = Typescript.fetchSending :=
          funext fun m => (Typescript.fetchSending_eq m).symm
        simp [file, text, hsending, text.summary, backend, Backend.pages, Backend.typescriptPages,
          Request.baseNameOf]
    | php =>
        have hsending : text.sending s Method.verb .php = Php.callBlock s.name := rfl
        simp [file, text, hsending, backend, Backend.pages, Backend.phpPages, Php.clientText,
          Request.baseNameOf, Php.ofService, Php.clientBlock]
  exact OutputFiles.get?_addAll hfiles hpage

/-- What a client has in a method tells the verb. -/
theorem call_injective (client : Client) (service : String) (m : Method) :
    Function.Injective fun verb => client.call service verb m := by
  cases client with
  | axios => exact Typescript.axiosCall_injective m
  | fetch => exact Typescript.fetchCall_injective m
  | php => exact Php.callUnder_injective service m

end Client

/-! ## Servers -/

/-- The length of the texts for some verbs. -/
def lengthUnder (get post : String) (verbs : Finset BoundVerb) : Nat :=
  (if .get ∈ verbs then get.length else 0) + (if .post ∈ verbs then post.length else 0)

/-- Where the text for one verb is longer than that for the other, the length tells the verbs. -/
theorem lengthUnder_injective {get post : String} (hget : 0 < get.length)
    (hpost : get.length < post.length) : Function.Injective (lengthUnder get post) := by
  intro left right h
  unfold lengthUnder at h
  have hget_iff : .get ∈ left ↔ .get ∈ right := by grind
  have hpost_iff : .post ∈ left ↔ .post ∈ right := by grind
  ext verb
  cases verb with
  | get => exact hget_iff
  | post => exact hpost_iff

namespace Go

/-- The lines that bind the path of a method under verbs. -/
def boundLines (service : String) (verbs : Finset BoundVerb) (m : Method) : String :=
  Text.concat [
    if .get ∈ verbs then routeLine "GET" service m else "",
    if .post ∈ verbs then routeLine "POST" service m else ""]

theorem routeLines_eq (service : String) (m : Method) :
    routeLines service m = boundLines service m.boundVerbs m := by
  simp [routeLines, boundLines, Method.get_mem_boundVerbs, Method.post_mem_boundVerbs]

theorem length_boundLines (service : String) (verbs : Finset BoundVerb) (m : Method) :
    (boundLines service verbs m).length =
      lengthUnder (routeLine "GET" service m) (routeLine "POST" service m) verbs := by
  unfold boundLines lengthUnder
  split_ifs <;> simp [Text.concat]

theorem length_routeLine (verb service : String) (m : Method) :
    (routeLine verb service m).length =
      verb.length + (m.path service).length + m.name.length + 24 := by
  have htexts : "\te.".length = 3 ∧ "(\"".length = 2 ∧ "\", _".length = 4 ∧
      "_Handler(srv))\n".length = 15 := by decide
  simp only [routeLine, Text.concat, String.length_append, String.length_empty]
  omega

theorem boundLines_injective (service : String) (m : Method) :
    Function.Injective (boundLines service · m) := by
  intro left right h
  have hlength := congrArg String.length h
  rw [length_boundLines, length_boundLines] at hlength
  have hverbs : "GET".length = 3 ∧ "POST".length = 4 := by decide
  refine lengthUnder_injective ?_ ?_ hlength
  · rw [length_routeLine]
    omega
  · rw [length_routeLine, length_routeLine]
    omega

end Go

namespace Java

/-- What a controller has for a method that it binds under verbs. -/
def boundBlock (service : String) (verbs : Finset BoundVerb) (m : Method) : String :=
  Text.concat [
    if .post ∈ verbs then mappedMethod "PostMapping" "Post(@RequestBody " service m else "",
    if .get ∈ verbs then mappedMethod "GetMapping" "Get(" service m else "",
    "\n    abstract ", m.outputType, " ", m.name, "(", m.inputType, " in);\n"]

theorem methodBlock_eq (service : String) (m : Method) :
    methodBlock service m = boundBlock service m.boundVerbs m := by
  simp [methodBlock, boundBlock, Method.get_mem_boundVerbs, Method.post_mem_boundVerbs]

theorem length_boundBlock (service : String) (verbs : Finset BoundVerb) (m : Method) :
    (boundBlock service verbs m).length =
      lengthUnder (mappedMethod "GetMapping" "Get(" service m)
          (mappedMethod "PostMapping" "Post(@RequestBody " service m) verbs +
        (boundBlock service ∅ m).length := by
  unfold boundBlock lengthUnder
  split_ifs <;> simp_all [Text.concat]
  omega

theorem length_mappedMethod (mapping input service : String) (m : Method) :
    (mappedMethod mapping input service m).length =
      mapping.length + input.length + (mappedMethod "" "" service m).length := by
  have htext : "\n    @(\"".length = "\n    @".length + "(\"".length := by decide
  simp [mappedMethod, Text.concat]
  omega

theorem boundBlock_injective (service : String) (m : Method) :
    Function.Injective (boundBlock service · m) := by
  intro left right h
  have hlength := congrArg String.length h
  rw [length_boundBlock service left, length_boundBlock service right] at hlength
  have hmappings : "GetMapping".length = 10 ∧ "Get(".length = 4 ∧ "PostMapping".length = 11 ∧
      "Post(@RequestBody ".length = 18 := by decide
  refine lengthUnder_injective ?_ ?_ (Nat.add_right_cancel hlength)
  · rw [length_mappedMethod]
    omega
  · rw [length_mappedMethod, length_mappedMethod "PostMapping"]
    omega

end Java

/-- The servers. -/
inductive Server where
  | echo
  | spring
  deriving DecidableEq, Repr

namespace Server

/-- The backend that writes the server. -/
def backend : Server → Backend
  | .echo => .echo
  | .spring => .spring

/-- The file that binds the paths of a service. -/
def file (request : Request) (s : Service) : Server → String
  | .echo => s.name ++ ".go"
  | .spring => classPath request (s.name ++ "Base")

/-- What a server has for a method that it binds under verbs. -/
def binding (service : String) (verbs : Finset BoundVerb) (m : Method) : Server → String
  | .echo => Go.boundLines service verbs m
  | .spring => Java.boundBlock service verbs m

/-- The text of the file when the path of each method is bound under verbs of its own. -/
def text (request : Request) (s : Service) (bound : Method → Finset BoundVerb)
    (server : Server) : String :=
  match server with
  | .echo => Go.serverFrame (Backend.goPackage request.packageName s.name) s bindings
  | .spring => Java.controllerFrame request.packageName s bindings
where
  /-- What the server has for the methods. -/
  bindings : String := Text.concat (s.methods.map fun m => server.binding s.name (bound m) m)

/-- The file of a server, wherever a run with the built-in templates writes it, binds the path of
each method of the service under verbs. -/
def Binds (server : Server) (request : Request) (s : Service)
    (bound : Method → Finset BoundVerb) : Prop :=
  ∀ name files, (name, server.backend) ∈ standardBackends →
    (Generator.standard .builtin).generate name request = .ok files →
    files.get? (server.file request s) = some (server.text request s bound)

/-- A server binds the path of each method under both verbs, but for one that names the other. -/
theorem binds_boundVerbs (server : Server) {request : Request} {s : Service}
    (h : request.services = [s]) : server.Binds request s Method.boundVerbs := by
  intro name files hname hfiles
  have hservice : request.services = (some s).toList := h
  rw [generate_builtin_of_found (find_standard hname) hservice] at hfiles
  have hpage : (server.file request s, server.text request s Method.boundVerbs) ∈
      server.backend.pages request (some s) := by
    cases server with
    | echo =>
        have hlines : Go.routeLines s.name = fun m => Go.boundLines s.name m.boundVerbs m :=
          funext (Go.routeLines_eq s.name)
        simp [file, text, text.bindings, binding, backend, Backend.pages, Backend.echoPages,
          Request.baseNameOf, Go.serverText, hlines]
    | spring =>
        have hblocks : Java.methodBlock s.name = fun m => Java.boundBlock s.name m.boundVerbs m :=
          funext (Java.methodBlock_eq s.name)
        simp [file, text, text.bindings, binding, backend, Backend.pages, Backend.springPages,
          classFile_eq_classPath, Java.controllerText, hblocks]
  exact OutputFiles.get?_addAll hfiles hpage

/-- What a server has for a method tells the verbs. -/
theorem binding_injective (server : Server) (service : String) (m : Method) :
    Function.Injective fun verbs => server.binding service verbs m := by
  cases server with
  | echo => exact Go.boundLines_injective service m
  | spring => exact Java.boundBlock_injective service m

end Server

/-! ## Meeting -/

section Meeting

variable {s : Service} {m : Method}

theorem Method.verb_eq_get_or_post_iff (m : Method) :
    (m.verb = "GET" ∨ m.verb = "POST") ↔
      m.options.get? Method.verbOption ∈ [none, some "GET", some "POST"] := by
  unfold Method.verb Method.defaultVerb
  cases m.options.get? Method.verbOption <;> simp

/-- A method is answered under its own verb only if that is one of the two that servers know. -/
theorem verb_mem_verbsAt_iff (hm : m ∈ s.methods) :
    m.verb ∈ s.verbsAt Method.boundVerbs (m.path s.name) ↔ m.verb = "GET" ∨ m.verb = "POST" := by
  constructor
  · rintro ⟨_, _, _, bound, _, hname⟩
    rw [← hname]
    cases bound with
    | get => exact .inl rfl
    | post => exact .inr rfl
  · rintro (hget | hpost)
    · have hbound : .get ∈ m.boundVerbs := m.get_mem_boundVerbs.2 (by simp [hget])
      exact ⟨m, hm, rfl, .get, hbound, hget.symm⟩
    · have hbound : .post ∈ m.boundVerbs := m.post_mem_boundVerbs.2 (by simp [hpost])
      exact ⟨m, hm, rfl, .post, hbound, hpost.symm⟩

/-- A method that names another verb is answered under both. -/
theorem verbsAt_of_other (hm : m ∈ s.methods) (h : ¬ (m.verb = "GET" ∨ m.verb = "POST")) :
    s.verbsAt Method.boundVerbs (m.path s.name) = {"GET", "POST"} := by
  obtain ⟨hget, hpost⟩ := not_or.1 h
  ext verb
  constructor
  · rintro ⟨_, _, _, bound, _, rfl⟩
    cases bound with
    | get => exact .inl rfl
    | post => exact .inr rfl
  · rintro (rfl | rfl)
    · exact ⟨m, hm, rfl, .get, m.get_mem_boundVerbs.2 hpost, rfl⟩
    · exact ⟨m, hm, rfl, .post, m.post_mem_boundVerbs.2 hget, rfl⟩

/-- Where no two files of any backend have one name, every backend writes its files. -/
theorem exists_files_of_services {request : Request} (hservice : request.services = [s])
    (hnames : ∀ backend, (plannedNames request (some s) backend).Nodup) :
    ∀ name backend, (name, backend) ∈ standardBackends →
      ∃ files, (Generator.standard .builtin).generate name request = .ok files := by
  intro name backend hname
  have hsome : request.services = (some s).toList := hservice
  exact (exists_files_iff hname hsome).2 (hnames backend)

end Meeting

/-- All clients send a method under one verb, and all servers bind its path under the same verbs,
each of which can be read off what the file has for the method.  The verb of the clients is among
those of the servers exactly when the method names GET, POST or no verb; for any other verb the
servers answer under GET and POST alone. -/
theorem clients_meet_servers_iff {request : Request} {s : Service}
    (hservice : request.services = [s]) :
    (∀ client : Client, client.Sends request s Method.verb ∧
      ∀ m, Function.Injective fun verb => client.call s.name verb m) ∧
    (∀ server : Server, server.Binds request s Method.boundVerbs ∧
      ∀ m, Function.Injective fun verbs => server.binding s.name verbs m) ∧
    ∀ m ∈ s.methods,
      (m.verb ∈ s.verbsAt Method.boundVerbs (m.path s.name) ↔
        m.options.get? Method.verbOption ∈ [none, some "GET", some "POST"]) ∧
      (m.options.get? Method.verbOption ∉ [none, some "GET", some "POST"] →
        s.verbsAt Method.boundVerbs (m.path s.name) = {"GET", "POST"}) := by
  refine ⟨fun client => ⟨client.sends_verb hservice, client.call_injective s.name⟩,
    fun server => ⟨server.binds_boundVerbs hservice, server.binding_injective s.name⟩,
    fun m hm => ⟨?_, fun hother => ?_⟩⟩
  · rw [verb_mem_verbsAt_iff hm, m.verb_eq_get_or_post_iff]
  · exact verbsAt_of_other hm (m.verb_eq_get_or_post_iff.not.2 hother)

/-- A service with a method for each case.  Every backend writes its files, the first two methods
are met by the servers, and the third is not. -/
theorem clients_meet_servers_shop :
    let listing : Method := ⟨"list", "Query", "Items", SortedMap.empty⟩
    let finding : Method := ⟨"find", "Query", "Item", SortedMap.ofList [("service_method", "GET")]⟩
    let removal : Method :=
      ⟨"remove", "Query", "Item", SortedMap.ofList [("service_method", "DELETE")]⟩
    let shop : Service := ⟨"Shop", [listing, finding, removal], SortedMap.empty⟩
    let request : Request := { Request.empty with services := [shop] }
    request.services = [shop] ∧
      (∀ name backend, (name, backend) ∈ standardBackends →
        ∃ files, (Generator.standard .builtin).generate name request = .ok files) ∧
      (∀ client : Client, client.Sends request shop Method.verb) ∧
      (∀ server : Server, server.Binds request shop Method.boundVerbs) ∧
      "POST" ∈ shop.verbsAt Method.boundVerbs "/Shop.list" ∧
      "GET" ∈ shop.verbsAt Method.boundVerbs "/Shop.find" ∧
      shop.verbsAt Method.boundVerbs "/Shop.remove" = {"GET", "POST"} := by
  intro listing finding removal shop request
  have hservice : request.services = [shop] := rfl
  obtain ⟨hclients, hservers, hmethods⟩ := clients_meet_servers_iff hservice
  have hnames : ∀ backend, (plannedNames request (some shop) backend).Nodup := by
    intro backend
    cases backend <;> decide
  refine ⟨hservice, exists_files_of_services hservice hnames, fun client => (hclients client).1,
    fun server => (hservers server).1, ?_, ?_, ?_⟩
  · exact (hmethods listing (by decide)).1.2 (by decide)
  · exact (hmethods finding (by decide)).1.2 (by decide)
  · exact (hmethods removal (by decide)).2 (by decide)

/-- A method that names PUT is sent under PUT by every client and bound under GET and POST by every
server, so that no server answers what the clients send. -/
theorem put_meets_no_server :
    let replacement : Method :=
      ⟨"replace", "Item", "Item", SortedMap.ofList [("service_method", "PUT")]⟩
    let shop : Service := ⟨"Shop", [replacement], SortedMap.empty⟩
    let request : Request := { Request.empty with services := [shop] }
    (∀ name backend, (name, backend) ∈ standardBackends →
      ∃ files, (Generator.standard .builtin).generate name request = .ok files) ∧
    (∀ client : Client, client.Sends request shop Method.verb) ∧
    (∀ server : Server, server.Binds request shop Method.boundVerbs) ∧
    replacement.verb = "PUT" ∧ replacement.boundVerbs = {.get, .post} ∧
    "PUT" ∉ shop.verbsAt Method.boundVerbs (replacement.path shop.name) := by
  intro replacement shop request
  have hservice : request.services = [shop] := rfl
  have hnames : ∀ backend, (plannedNames request (some shop) backend).Nodup := by
    intro backend
    cases backend <;> decide
  have hverb : replacement.verb = "PUT" := by decide
  refine ⟨exists_files_of_services hservice hnames, fun client => client.sends_verb hservice,
    fun server => server.binds_boundVerbs hservice, hverb, by decide, ?_⟩
  rw [← hverb, verb_mem_verbsAt_iff (by decide), hverb]
  decide

end ApiStubs
