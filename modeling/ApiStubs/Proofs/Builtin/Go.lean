import ApiStubs.Proofs.Builtin.View

/-!
# The text of the Go files

What the two Go templates write for a description, part by part: the types of enumerations and
messages, and the server of a service.
-/

namespace ApiStubs.Go

open Template Template.Sight

/-! ## Types -/

/-- The line of a constant. -/
def constantLine (e : Enumeration) (v : EnumValue) : String :=
  Text.concat ["\t", v.name, " ", e.name, " = ", Text.decimal v.value.toInt, "\n"]

/-- The line that gives a constant its name as a text. -/
def labelLine (v : EnumValue) : String := Text.concat ["\t\t", v.name, ": \"", v.name, "\",\n"]

/-- The declarations of an enumeration. -/
def enumBlock (e : Enumeration) : String :=
  Text.concat [
    "\ntype ", e.name, " int\n\nconst (\n",
    Text.concat (e.values.map (constantLine e)),
    ")\n\nfunc (code ", e.name, ") String() string \x7b\n\tnames := map[", e.name, "]string\x7b\n",
    Text.concat (e.values.map labelLine),
    "\t\x7d\n\n\treturn names[code]\n\x7d\n"]

/-- The line of a field, where some names are those of enumerations: a list gets brackets, and a
type that is neither a scalar nor an enumeration is pointed to. -/
def fieldLine (enumNames : List String) (f : Field) : String :=
  Text.concat [
    "\t", Text.capitalize f.name, " ",
    if f.label = .repeated then "[]" else "",
    if isPlainType enumNames f.dataType = false then "*" else "",
    Language.go.nativeType f.dataType,
    " `json:\"", f.key, "\" form:\"", f.key, "\" query:\"", f.key, "\"`\n"]

/-- The struct of a message. -/
def messageBlock (enumNames : List String) (m : Message) : String :=
  Text.concat [
    "\n// ", m.name, "\ntype ", m.name, " struct \x7b\n",
    Text.concat (m.fields.map (fieldLine enumNames)),
    "\x7d\n"]

/-- The file of types. -/
def typesText (package : String) (enums : List Enumeration) (messages : List Message) : String :=
  Text.concat [
    heading, package, "\n",
    Text.concat (enums.map enumBlock),
    Text.concat (messages.map (messageBlock (enums.map Enumeration.name)))]

variable {sight : Sight}

theorem printsAll_constant {e : Enumeration} {v : EnumValue} (he : sight.names "enum" = some e.view)
    (hv : sight.names "value" = some v.view) : sight.PrintsAll Tree.constant (constantLine e v) :=
  printsAll_concat (by
    simp [Tree.constant, prints_put, he, hv, Enumeration.view, EnumValue.view, findEntry])

theorem printsAll_label {v : EnumValue} (hv : sight.names "value" = some v.view) :
    sight.PrintsAll Tree.label (labelLine v) :=
  printsAll_concat (by simp [Tree.label, prints_put, hv, EnumValue.view, findEntry])

theorem printsAll_enumeration {e : Enumeration} (hroom : 0 < sight.room)
    (he : sight.names "enum" = some e.view) : sight.PrintsAll Tree.enumeration (enumBlock e) := by
  have hvalues : sight.Gives (.dot "enum" "fields") (.list (e.values.map EnumValue.view)) :=
    gives_dot he (by simp [Enumeration.view, findEntry]) rfl
  have hconstants : sight.Prints (.forEach "value" (.dot "enum" "fields") Tree.constant)
      (Text.concat (e.values.map (constantLine e))) :=
    prints_forEach hroom hvalues EnumValue.holdsRound_view fun v _ _ =>
      PrintsAll.writes (printsAll_constant (by simpa using he) (names_enter_self ..))
  have hlabels : sight.Prints (.forEach "value" (.dot "enum" "fields") Tree.label)
      (Text.concat (e.values.map labelLine)) :=
    prints_forEach hroom hvalues EnumValue.holdsRound_view fun v _ _ =>
      PrintsAll.writes (printsAll_label (names_enter_self ..))
  exact printsAll_concat (by
    simp [Tree.enumeration, prints_put, he, hconstants, hlabels, Enumeration.view, findEntry])

theorem printsAll_field {enums : List Enumeration} {f : Field} (hlanguage : sight.language = .go)
    (henums : sight.names "enum_names" = some (enumNamesView enums))
    (hf : sight.names "field" = some f.view) :
    sight.PrintsAll Tree.field (fieldLine (enums.map Enumeration.name) f) := by
  have hlist : sight.Prints (.when repeatedField [.say "[]"])
      (if f.label = .repeated then "[]" else "") :=
    prints_when (decides_repeatedField hf) (printsAll_single (prints_say _))
  have hobject : sight.Decides (.and (.not scalarField)
      (.compare (.dot "field" "data_type") [(.notContained, .name "enum_names")]))
      (isPlainType (enums.map Enumeration.name) f.dataType = false) :=
    ((decides_scalarField hf).not.and rfl
      (decides_notContained (gives_dataType hf) (gives_enumNames henums))).of_iff
        (by simp [isPlainType])
  have hpointer := prints_when hobject (printsAll_single (prints_say "*"))
  have htype := prints_nativeType hf
  rw [hlanguage] at htype
  exact printsAll_concat (by
    simp [Tree.field, prints_put, prints_capitalName hf, htype, hlist, hpointer, hf, Field.view,
      findEntry])

theorem printsAll_message {enums : List Enumeration} {m : Message}
    (hlanguage : sight.language = .go) (hroom : 0 < sight.room)
    (henums : sight.names "enum_names" = some (enumNamesView enums))
    (hm : sight.names "message" = some m.view) :
    sight.PrintsAll Tree.message (messageBlock (enums.map Enumeration.name) m) := by
  have hfields : sight.Prints (.forEach "field" (.dot "message" "fields") Tree.field)
      (Text.concat (m.fields.map (fieldLine (enums.map Enumeration.name)))) :=
    prints_forEach hroom (gives_dot hm (by simp [Message.view, findEntry]) rfl)
      Field.holdsRound_view fun f _ _ =>
        PrintsAll.writes (printsAll_field hlanguage (by simpa using henums) (names_enter_self ..))
  exact printsAll_concat (by
    simp [Tree.message, prints_put, hm, hfields, Message.view, findEntry])

theorem printsAll_types {package : String} {enums : List Enumeration} {messages : List Message}
    (hlanguage : sight.language = .go) (hroom : 1 < sight.room)
    (hpackage : sight.names "package" = some (.text package))
    (hnames : sight.names "enum_names" = some (enumNamesView enums))
    (henums : sight.names "enums" = some (enumsView enums))
    (hmessages : sight.names "messages" = some (messagesView messages)) :
    sight.PrintsAll Tree.types (typesText package enums messages) := by
  have henumBlocks : sight.Prints (.forEach "enum" (.name "enums") Tree.enumeration)
      (Text.concat (enums.map enumBlock)) :=
    prints_forEach (by omega) (gives_name henums) Enumeration.holdsRound_view fun e _ _ =>
      PrintsAll.writes (printsAll_enumeration (Nat.sub_pos_of_lt hroom) (names_enter_self ..))
  have hmessageBlocks : sight.Prints (.forEach "message" (.name "messages") Tree.message)
      (Text.concat (messages.map (messageBlock (enums.map Enumeration.name)))) :=
    prints_forEach (by omega) (gives_name hmessages) Message.holdsRound_view fun m _ _ =>
      PrintsAll.writes (printsAll_message hlanguage (Nat.sub_pos_of_lt hroom)
        (by simpa using hnames) (names_enter_self ..))
  exact printsAll_concat (by simp [Tree.types, prints_name, hpackage, henumBlocks, hmessageBlocks])

theorem renders_types (package : String) (enums : List Enumeration) (messages : List Message)
    (summary : Value) :
    Renders .go [
      ("enum_names", enumNamesView enums), ("enums", enumsView enums), ("gen", summary),
      ("messages", messagesView messages), ("package", .text package)] Tree.types
      (typesText package enums messages) :=
  renders_of_writes (PrintsAll.writes (printsAll_types rfl (by simp)
    (by simp [findEntry]) (by simp [findEntry]) (by simp [findEntry])
    (by simp [findEntry])))

/-! ## The server -/

/-- The line of a method in the interface of the service. -/
def signatureLine (m : Method) : String :=
  Text.concat [
    "\t", m.title, "(*", m.inputType, ") (*", m.outputType,
    if m.errorType = "" then "" else Text.concat [", *", m.errorType],
    ")\n"]

/-- The handler of a method: only a method with an error type answers with an error. -/
def handlerBlock (service : String) (m : Method) : String :=
  Text.concat [
    "\nfunc _", m.name, "_Handler(srv ", service,
    ") echo.HandlerFunc \x7b\n\treturn func(c echo.Context) (err error) \x7b\n\t\tin := new(",
    m.inputType, handlerBinding,
    if m.errorType = "" then Text.concat ["\t\tout := srv.", m.title, "(in)\n"]
    else Text.concat ["\t\tout, callErr := srv.", m.title, handlerFailure],
    handlerEnd]

/-- The line that binds the path of a method under a verb. -/
def routeLine (verb service : String) (m : Method) : String :=
  Text.concat ["\te." ++ verb ++ "(\"", m.path service, "\", _", m.name, "_Handler(srv))\n"]

/-- The routes of a method: under both verbs unless it asks for one of them. -/
def routeLines (service : String) (m : Method) : String :=
  Text.concat [
    if m.verb = "POST" then "" else routeLine "GET" service m,
    if m.verb = "GET" then "" else routeLine "POST" service m]

/-- The file of the server, with the lines that bind the paths. -/
def serverFrame (package : String) (s : Service) (routes : String) : String :=
  Text.concat [
    heading, package, serverImports, s.name,
    " is the interface implemented by the service controllers\ntype ", s.name, " interface \x7b\n",
    Text.concat (s.methods.map signatureLine),
    envelope,
    Text.concat (s.methods.map (handlerBlock s.name)),
    "\n// Register", s.name, " binds the service routes\nfunc Register", s.name,
    "(e *echo.Echo, srv ", s.name, ") \x7b\n",
    routes,
    "\x7d\n"]

/-- The file of the server. -/
def serverText (package : String) (s : Service) : String :=
  serverFrame package s (Text.concat (s.methods.map (routeLines s.name)))

variable {service : String} {m : Method}

theorem decides_errorType (h : sight.names "method" = some (m.routeView service)) :
    sight.Decides (.dot "method" "error_type") (¬ m.errorType = "") :=
  decides_text (gives_dot h (by simp [Method.routeView, findEntry]) rfl)

theorem printsAll_signature (h : sight.names "method" = some (m.routeView service)) :
    sight.PrintsAll Tree.signature (signatureLine m) := by
  have herror : sight.PrintsAll Tree.errorResult (Text.concat [", *", m.errorType]) :=
    printsAll_concat (by simp [Tree.errorResult, prints_put, h, Method.routeView, findEntry])
  exact printsAll_concat (by
    simp [Tree.signature, prints_put, prints_when_not (decides_errorType h) herror, h,
      Method.routeView, findEntry])

theorem printsAll_handler (hname : sight.names "name" = some (.text service))
    (h : sight.names "method" = some (m.routeView service)) :
    sight.PrintsAll Tree.handler (handlerBlock service m) := by
  have hfailing : sight.PrintsAll Tree.failingCall
      (Text.concat ["\t\tout, callErr := srv.", m.title, handlerFailure]) :=
    printsAll_concat (by simp [Tree.failingCall, prints_put, h, Method.routeView, findEntry])
  have hplain : sight.PrintsAll Tree.plainCall
      (Text.concat ["\t\tout := srv.", m.title, "(in)\n"]) :=
    printsAll_concat (by simp [Tree.plainCall, prints_put, h, Method.routeView, findEntry])
  exact printsAll_concat (by
    simp [Tree.handler, prints_put, prints_name, hname,
      prints_branch_not (decides_errorType h) hfailing hplain, h, Method.routeView, findEntry])

theorem printsAll_routes (h : sight.names "method" = some (m.routeView service)) :
    sight.PrintsAll Tree.routes (routeLines service m) := by
  have hroute (verb : String) :
      sight.PrintsAll (Tree.route verb) (routeLine verb service m) :=
    printsAll_concat (by simp [Tree.route, prints_put, h, Method.routeView, findEntry])
  exact printsAll_concat (by
    simp [Tree.routes, prints_when_not (decides_verb_ne h "POST") (hroute "GET"),
      prints_when_not (decides_verb_ne h "GET") (hroute "POST")])

theorem printsAll_server {package : String} {s : Service} (hroom : 0 < sight.room)
    (hpackage : sight.names "package" = some (.text package))
    (hname : sight.names "name" = some (.text s.name))
    (hmethods : sight.names "methods" = some s.routes) :
    sight.PrintsAll Tree.server (serverText package s) := by
  have hsignatures : sight.Prints (.forEach "method" (.name "methods") Tree.signature)
      (Text.concat (s.methods.map signatureLine)) :=
    prints_forEach hroom (gives_name hmethods) (Method.holdsRound_routeView s.name) fun m _ _ =>
      PrintsAll.writes (printsAll_signature (names_enter_self ..))
  have hhandlers : sight.Prints (.forEach "method" (.name "methods") Tree.handler)
      (Text.concat (s.methods.map (handlerBlock s.name))) :=
    prints_forEach hroom (gives_name hmethods) (Method.holdsRound_routeView s.name) fun m _ _ =>
      PrintsAll.writes (printsAll_handler (by simpa using hname) (names_enter_self ..))
  have hroutes : sight.Prints (.forEach "method" (.name "methods") Tree.routes)
      (Text.concat (s.methods.map (routeLines s.name))) :=
    prints_forEach hroom (gives_name hmethods) (Method.holdsRound_routeView s.name) fun m _ _ =>
      PrintsAll.writes (printsAll_routes (names_enter_self ..))
  exact printsAll_concat (by
    simp [Tree.server, prints_name, hpackage, hname, hsignatures, hhandlers, hroutes])

theorem renders_server (package : String) (s : Service) (summary : Value) :
    Renders .go [
      ("gen", summary), ("methods", s.routes), ("name", .text s.name), ("package", .text package)]
      Tree.server (serverText package s) :=
  renders_of_writes (PrintsAll.writes (printsAll_server (by simp)
    (by simp [findEntry]) (by simp [findEntry]) (by simp [findEntry])))

end ApiStubs.Go
