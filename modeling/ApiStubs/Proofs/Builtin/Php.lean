import ApiStubs.Proofs.Builtin.View

/-!
# The text of the PHP file

What the PHP template writes: a class for every enumeration and message, and the client of a
service.
-/

namespace ApiStubs.Php

open Template Template.Sight

/-! ## Enumerations -/

/-- The line of a constant. -/
def constantLine (v : EnumValue) : String :=
  Text.concat ["    const ", v.name, " = ", Text.decimal v.value.toInt, ";\n"]

/-- The class of an enumeration. -/
def enumBlock (e : Enumeration) : String :=
  Text.concat [
    "\nfinal class ", e.name, "\n\x7b\n", Text.concat (e.values.map constantLine), "\x7d\n"]

variable {sight : Sight}

theorem printsAll_constant {v : EnumValue} (hv : sight.names "value" = some v.view) :
    sight.PrintsAll Tree.constant (constantLine v) :=
  printsAll_concat (by simp [Tree.constant, prints_put, hv, EnumValue.view, findEntry])

theorem printsAll_enumeration {e : Enumeration} (hroom : 0 < sight.room)
    (he : sight.names "enum" = some e.view) : sight.PrintsAll Tree.enumeration (enumBlock e) := by
  have hconstants : sight.Prints (.forEach "value" (.dot "enum" "fields") Tree.constant)
      (Text.concat (e.values.map constantLine)) :=
    prints_forEach hroom (gives_dot he (by simp [Enumeration.view, findEntry]) rfl)
      EnumValue.holdsRound_view fun _ _ _ =>
        PrintsAll.writes (printsAll_constant (names_enter_self ..))
  exact printsAll_concat (by
    simp [Tree.enumeration, prints_put, he, hconstants, Enumeration.view, findEntry])

/-! ## Messages -/

/-- The line that declares a field. -/
def declarationLine (f : Field) : String := Text.concat ["    private $", f.name, ";\n"]

/-- How a field that is passed on as it is is read. -/
def rawReading (f : Field) : String :=
  Text.concat ["        $this->", f.name, " = $response[\"", f.key, "\"];\n"]

/-- How a list of messages is read. -/
def listReading (f : Field) : String :=
  Text.concat [
    "        $this->", f.name, " = array_map(function ($item) \x7b\n            return new ",
    f.dataType, "($item);\n        \x7d, $response[\"", f.key, "\"]);\n"]

/-- How a message is read. -/
def messageReading (f : Field) : String :=
  Text.concat ["        $this->", f.name, " = new ", f.dataType, "($response[\"", f.key, "\"]);\n"]

/-- How a field is read from a response, where some names are those of enumerations. -/
def validationBlock (enumNames : List String) (f : Field) : String :=
  Text.concat [
    "        if (!isset($response[\"", f.key,
    "\"])) \x7b\n            throw new Exception(\"'", f.key,
      "' does not exist\");\n        \x7d\n",
    if isPlainType enumNames f.dataType = true then rawReading f
    else if f.label = .repeated then listReading f
    else messageReading f]

/-- The methods that set and give out a field. -/
def accessorBlock (f : Field) : String :=
  Text.concat [
    "\n    public function set_", f.name, "($", f.name, ")\n    \x7b\n        $this->", f.name,
    " = $", f.name, ";\n    \x7d\n\n    public function get_", f.name,
    "()\n    \x7b\n        return $this->", f.name, ";\n    \x7d\n"]

/-- The entry of a field that is passed on as it is. -/
def rawEntry (f : Field) : String :=
  Text.concat ["            \"", f.key, "\" => $this->", f.name, ",\n"]

/-- The entry of a list of messages. -/
def listEntry (f : Field) : String :=
  Text.concat ["            \"", f.key, nestedArrays, f.name, "),\n"]

/-- The entry of a message. -/
def messageEntry (f : Field) : String :=
  Text.concat ["            \"", f.key, "\" => $this->", f.name, "->to_array(),\n"]

/-- The entry of a field in the array of a message. -/
def entryLine (enumNames : List String) (f : Field) : String :=
  if isPlainType enumNames f.dataType = true then rawEntry f
  else if f.label = .repeated then listEntry f
  else messageEntry f

/-- The class of a message. -/
def messageBlock (enumNames : List String) (m : Message) : String :=
  Text.concat [
    "\nclass ", m.name, "\n\x7b\n",
    Text.concat (m.fields.map declarationLine),
    constructor,
    Text.concat (m.fields.map (validationBlock enumNames)),
    "    \x7d\n",
    Text.concat (m.fields.map accessorBlock),
    "\n    public function to_array()\n    \x7b\n        return [\n",
    Text.concat (m.fields.map (entryLine enumNames)),
    "        ];\n    \x7d\n\x7d\n"]

variable {enums : List Enumeration} {f : Field}

theorem decides_rawField (henums : sight.names "enum_names" = some (enumNamesView enums))
    (hf : sight.names "field" = some f.view) :
    sight.Decides Tree.rawField (isPlainType (enums.map Enumeration.name) f.dataType = true) :=
  ((decides_scalarField hf).or
    (decides_contained (gives_dataType hf) (gives_enumNames henums))).of_iff (by simp [isPlainType])

theorem printsAll_declaration (hf : sight.names "field" = some f.view) :
    sight.PrintsAll Tree.declaration (declarationLine f) :=
  printsAll_concat (by simp [Tree.declaration, prints_put, hf, Field.view, findEntry])

/-- A field takes one of three forms: as it is, a list of messages, or a message. -/
theorem prints_form {raw list message : List Stmt} {text texts nested : String}
    (henums : sight.names "enum_names" = some (enumNamesView enums))
    (hf : sight.names "field" = some f.view) (hraw : sight.PrintsAll raw text)
    (hlist : sight.PrintsAll list texts) (hmessage : sight.PrintsAll message nested) :
    sight.Prints (.branch Tree.rawField raw [.branch repeatedField list message])
      (if isPlainType (enums.map Enumeration.name) f.dataType = true then text
        else if f.label = .repeated then texts else nested) :=
  prints_branch (decides_rawField henums hf) hraw
    (printsAll_single (prints_branch (decides_repeatedField hf) hlist hmessage))

theorem printsAll_validation (henums : sight.names "enum_names" = some (enumNamesView enums))
    (hf : sight.names "field" = some f.view) :
    sight.PrintsAll Tree.validation (validationBlock (enums.map Enumeration.name) f) := by
  have hraw : sight.PrintsAll Tree.rawReading (rawReading f) :=
    printsAll_concat (by simp [Tree.rawReading, prints_put, hf, Field.view, findEntry])
  have hlist : sight.PrintsAll Tree.listReading (listReading f) :=
    printsAll_concat (by simp [Tree.listReading, prints_put, hf, Field.view, findEntry])
  have hmessage : sight.PrintsAll Tree.messageReading (messageReading f) :=
    printsAll_concat (by simp [Tree.messageReading, prints_put, hf, Field.view, findEntry])
  exact printsAll_concat (by
    simp [Tree.validation, prints_put, prints_form henums hf hraw hlist hmessage, hf, Field.view,
      findEntry])

theorem printsAll_accessors (hf : sight.names "field" = some f.view) :
    sight.PrintsAll Tree.accessors (accessorBlock f) :=
  printsAll_concat (by simp [Tree.accessors, prints_put, hf, Field.view, findEntry])

theorem printsAll_entry (henums : sight.names "enum_names" = some (enumNamesView enums))
    (hf : sight.names "field" = some f.view) :
    sight.PrintsAll Tree.entry (entryLine (enums.map Enumeration.name) f) := by
  have hraw : sight.PrintsAll Tree.rawEntry (rawEntry f) :=
    printsAll_concat (by simp [Tree.rawEntry, prints_put, hf, Field.view, findEntry])
  have hlist : sight.PrintsAll Tree.listEntry (listEntry f) :=
    printsAll_concat (by simp [Tree.listEntry, prints_put, hf, Field.view, findEntry])
  have hmessage : sight.PrintsAll Tree.messageEntry (messageEntry f) :=
    printsAll_concat (by simp [Tree.messageEntry, prints_put, hf, Field.view, findEntry])
  exact printsAll_single (prints_form henums hf hraw hlist hmessage)

theorem printsAll_message {m : Message} (hroom : 0 < sight.room)
    (henums : sight.names "enum_names" = some (enumNamesView enums))
    (hm : sight.names "message" = some m.view) :
    sight.PrintsAll Tree.message (messageBlock (enums.map Enumeration.name) m) := by
  have hfields : sight.Gives (.dot "message" "fields") (.list (m.fields.map Field.view)) :=
    gives_dot hm (by simp [Message.view, findEntry]) rfl
  have hdeclarations : sight.Prints (.forEach "field" (.dot "message" "fields") Tree.declaration)
      (Text.concat (m.fields.map declarationLine)) :=
    prints_forEach hroom hfields Field.holdsRound_view fun _ _ _ =>
      PrintsAll.writes (printsAll_declaration (names_enter_self ..))
  have hvalidations : sight.Prints (.forEach "field" (.dot "message" "fields") Tree.validation)
      (Text.concat (m.fields.map (validationBlock (enums.map Enumeration.name)))) :=
    prints_forEach hroom hfields Field.holdsRound_view fun _ _ _ =>
      PrintsAll.writes (printsAll_validation (by simpa using henums) (names_enter_self ..))
  have haccessors : sight.Prints (.forEach "field" (.dot "message" "fields") Tree.accessors)
      (Text.concat (m.fields.map accessorBlock)) :=
    prints_forEach hroom hfields Field.holdsRound_view fun _ _ _ =>
      PrintsAll.writes (printsAll_accessors (names_enter_self ..))
  have hentries : sight.Prints (.forEach "field" (.dot "message" "fields") Tree.entry)
      (Text.concat (m.fields.map (entryLine (enums.map Enumeration.name)))) :=
    prints_forEach hroom hfields Field.holdsRound_view fun _ _ _ =>
      PrintsAll.writes (printsAll_entry (by simpa using henums) (names_enter_self ..))
  exact printsAll_concat (by
    simp [Tree.message, prints_put, hdeclarations, hvalidations, haccessors, hentries, hm,
      Message.view, findEntry])

/-! ## The client -/

/-- The method of the client for a method that is sent under a verb. -/
def callUnder (verb service : String) (m : Method) : String :=
  Text.concat [
    "\n    public function ", m.name, "(", m.inputType,
    " $req)\n    \x7b\n        return $this->callApi($req, \"", verb, "\", \"", m.path service,
    "\", __NAMESPACE__ . \"\\\\", m.outputType, "\");\n    \x7d\n"]

/-- The method of the client for a method. -/
def callBlock (service : String) (m : Method) : String := callUnder m.verb service m

/-- The client class of a service, with its methods. -/
def clientClass (s : Service) (calls : String) : String :=
  Text.concat ["\nclass ", s.name, clientBody, calls, "\x7d\n"]

/-- The client class of a service. -/
def clientBlock (s : Service) : String :=
  clientClass s (Text.concat (s.methods.map (callBlock s.name)))

/-- The line that a client class needs. -/
def clientImport : String := "use GuzzleHttp\\Client as HttpClient;\n"

/-- A text for the service of the run; there is none for a service without a name. -/
def ofService (text : Service → String) : Option Service → String
  | none => ""
  | some s => if s.name = "" then "" else text s

/-- The file, with what it has for the service. -/
def clientFrame (qualified : String) (enums : List Enumeration) (messages : List Message)
    (imported client : String) : String :=
  Text.concat [
    heading,
    if qualified = "" then "" else Text.concat ["\nnamespace ", qualified, ";\n"],
    "\nuse Exception;\n",
    imported,
    Text.concat (enums.map enumBlock),
    Text.concat (messages.map (messageBlock (enums.map Enumeration.name))),
    client]

/-- The file. -/
def clientText (qualified : String) (enums : List Enumeration) (messages : List Message)
    (service : Option Service) : String :=
  clientFrame qualified enums messages (ofService (fun _ => clientImport) service)
    (ofService clientBlock service)

theorem printsAll_call {service : String} {m : Method}
    (h : sight.names "method" = some (m.routeView service)) :
    sight.PrintsAll Tree.call (callBlock service m) :=
  printsAll_concat (by simp [Tree.call, prints_put, h, Method.routeView, findEntry])

theorem printsAll_clientClass {s : Service} (hroom : 0 < sight.room)
    (hname : sight.names "service" = some (.text s.name))
    (hmethods : sight.names "methods" = some s.routes) :
    sight.PrintsAll Tree.clientClass (clientBlock s) := by
  have hcalls : sight.Prints (.forEach "method" (.name "methods") Tree.call)
      (Text.concat (s.methods.map (callBlock s.name))) :=
    prints_forEach hroom (gives_name hmethods) (Method.holdsRound_routeView s.name) fun _ _ _ =>
      PrintsAll.writes (printsAll_call (names_enter_self ..))
  exact printsAll_concat (by simp [Tree.clientClass, prints_name, hname, hcalls])

/-- The name of the service of the run as a value. -/
def serviceView : Option Service → Value
  | none => .none
  | some s => .text s.name

/-- What is written for a service is written only where there is one with a name. -/
theorem prints_ofService {service : Option Service} {body : List Stmt} {text : Service → String}
    (hservice : sight.names "service" = some (serviceView service))
    (hbody : ∀ s, service = some s → sight.PrintsAll body (text s)) :
    sight.Prints (.when (.name "service") body) (ofService text service) := by
  cases service with
  | none =>
      have habsent : sight.Decides (.name "service") False :=
        ⟨.none, gives_name hservice, rfl, by simp [Value.isTrue]⟩
      exact prints_when_false habsent
  | some s =>
      exact prints_when_not (decides_text (gives_name hservice)) (hbody s rfl)

theorem printsAll_client {qualified : String} {messages : List Message} {service : Option Service}
    (hroom : 1 < sight.room) (hqualified : sight.names "namespace" = some (.text qualified))
    (hnames : sight.names "enum_names" = some (enumNamesView enums))
    (henums : sight.names "enums" = some (enumsView enums))
    (hmessages : sight.names "messages" = some (messagesView messages))
    (hservice : sight.names "service" = some (serviceView service))
    (hmethods : ∀ s, service = some s → sight.names "methods" = some s.routes) :
    sight.PrintsAll Tree.client (clientText qualified enums messages service) := by
  have hsome : 0 < sight.room := Nat.lt_of_succ_lt hroom
  have hnamespace : sight.Prints
      (.when (.name "namespace") [.say "\nnamespace ", .print (.name "namespace"), .say ";\n"])
      (if qualified = "" then "" else Text.concat ["\nnamespace ", qualified, ";\n"]) :=
    prints_when_not (decides_text (gives_name hqualified))
      (printsAll_concat (by simp [prints_name, hqualified]))
  have himport : sight.Prints
      (.when (.name "service") [.say "use GuzzleHttp\\Client as HttpClient;\n"])
      (ofService (fun _ => clientImport) service) :=
    prints_ofService hservice fun _ _ => printsAll_single (prints_say _)
  have henumBlocks : sight.Prints (.forEach "enum" (.name "enums") Tree.enumeration)
      (Text.concat (enums.map enumBlock)) :=
    prints_forEach hsome (gives_name henums) Enumeration.holdsRound_view fun _ _ _ =>
      PrintsAll.writes (printsAll_enumeration (Nat.sub_pos_of_lt hroom) (names_enter_self ..))
  have hmessageBlocks : sight.Prints (.forEach "message" (.name "messages") Tree.message)
      (Text.concat (messages.map (messageBlock (enums.map Enumeration.name)))) :=
    prints_forEach hsome (gives_name hmessages) Message.holdsRound_view fun _ _ _ =>
      PrintsAll.writes (printsAll_message (Nat.sub_pos_of_lt hroom) (by simpa using hnames)
        (names_enter_self ..))
  have hclass : sight.Prints (.when (.name "service") Tree.clientClass)
      (ofService clientBlock service) :=
    prints_ofService hservice fun s hs => by
      subst hs
      exact printsAll_clientClass hsome hservice (hmethods s rfl)
  exact printsAll_concat (by
    simp [Tree.client, hnamespace, himport, henumBlocks, hmessageBlocks, hclass])

theorem renders_client (qualified : String) (enums : List Enumeration) (messages : List Message)
    (service : Option Service) (summary : Value) :
    Renders .php [
      ("enum_names", enumNamesView enums), ("enums", enumsView enums), ("gen", summary),
      ("messages", messagesView messages),
      ("methods", match service with
        | none => .list []
        | some s => s.routes),
      ("namespace", .text qualified),
      ("service", match service with
        | none => .none
        | some s => .text s.name)] Tree.client
      (clientText qualified enums messages service) := by
  refine renders_of_writes (PrintsAll.writes (printsAll_client (by simp) ?_ ?_ ?_ ?_ ?_ ?_))
  · simp [findEntry]
  · simp [findEntry]
  · simp [findEntry]
  · simp [findEntry]
  · cases service <;> simp [findEntry, serviceView]
  · intro s hs
    simp [findEntry, hs]

end ApiStubs.Php
