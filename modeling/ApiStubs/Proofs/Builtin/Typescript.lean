import ApiStubs.Backend.Basic
import ApiStubs.Proofs.Builtin.View

/-!
# The text of the TypeScript files

What the TypeScript templates write: the types of a description, and a client that differs between
the two transports only in its fixed texts and in how its functions send their parameters.
-/

namespace ApiStubs.Typescript

open Template Template.Sight

/-! ## Types -/

/-- The line of a constant. -/
def constantLine (v : EnumValue) : String :=
  Text.concat ["    ", v.name, " = ", Text.decimal v.value.toInt, ",\n"]

/-- An enumeration. -/
def enumBlock (e : Enumeration) : String :=
  Text.concat [
    "\nexport enum ", e.name, " \x7b\n", Text.concat (e.values.map constantLine), "\x7d\n"]

/-- The lines of a field. -/
def fieldLines (f : Field) : String :=
  Text.concat [
    if f.comment = "" then "" else Text.concat ["    /** ", f.comment, " */\n"],
    "    ", f.name, ": ", Language.typescript.nativeType f.dataType,
    if f.label = .repeated then "[]" else "",
    ";\n"]

/-- The interface of a message. -/
def messageBlock (m : Message) : String :=
  Text.concat [
    "\nexport interface ", m.name, " \x7b\n", Text.concat (m.fields.map fieldLines), "\x7d\n"]

/-- The type of error shapes, if there are any. -/
def unionBlock (summary : Union.Summary) : String :=
  if summary.hasCommonError = true ∧ ¬ summary.subTypes = "" then
    Text.concat [unionHeading, summary.commonError, "Union =", summary.subTypes, ";\n"]
  else ""

/-- The file of types. -/
def typesText (enums : List Enumeration) (messages : List Message)
    (summary : Union.Summary) : String :=
  Text.concat [
    heading, Text.concat (enums.map enumBlock), Text.concat (messages.map messageBlock),
    unionBlock summary]

variable {sight : Sight} {summary : Union.Summary}

theorem printsAll_constant {v : EnumValue} (hv : sight.names "value" = some v.view) :
    sight.PrintsAll Tree.constant (constantLine v) :=
  printsAll_concat (by simp [Tree.constant, prints_put, hv, EnumValue.view, findEntry])

theorem printsAll_enumeration {e : Enumeration} (hroom : 0 < sight.room)
    (he : sight.names "enum" = some e.view) : sight.PrintsAll Tree.enumeration (enumBlock e) := by
  have hconstants : sight.Prints (.forEach "value" (.dot "enum" "fields") Tree.constant)
      (Text.concat (e.values.map constantLine)) :=
    prints_forEach hroom (gives_dot he (by simp [Enumeration.view, findEntry]) rfl)
      EnumValue.holdsRound_view fun _ _ _ =>
        PrintsAll.writes (printsAll_constant (names_enter_self ..))
  exact printsAll_concat (by
    simp [Tree.enumeration, prints_put, he, hconstants, Enumeration.view, findEntry])

theorem printsAll_field {f : Field} (hlanguage : sight.language = .typescript)
    (hf : sight.names "field" = some f.view) : sight.PrintsAll Tree.field (fieldLines f) := by
  have hcomment : sight.PrintsAll Tree.comment (Text.concat ["    /** ", f.comment, " */\n"]) :=
    printsAll_concat (by simp [Tree.comment, prints_put, hf, Field.view, findEntry])
  have hcommented : sight.Decides (.dot "field" "comment") (¬ f.comment = "") :=
    decides_text (gives_dot hf (by simp [Field.view, findEntry]) rfl)
  have hlist := prints_when (decides_repeatedField hf) (printsAll_single (prints_say "[]"))
  have htype := prints_nativeType hf
  rw [hlanguage] at htype
  exact printsAll_concat (by
    simp [Tree.field, prints_put, prints_when_not hcommented hcomment, hlist, htype, hf, Field.view,
      findEntry])

theorem printsAll_message {m : Message} (hlanguage : sight.language = .typescript)
    (hroom : 0 < sight.room) (hm : sight.names "message" = some m.view) :
    sight.PrintsAll Tree.message (messageBlock m) := by
  have hfields : sight.Prints (.forEach "field" (.dot "message" "fields") Tree.field)
      (Text.concat (m.fields.map fieldLines)) :=
    prints_forEach hroom (gives_dot hm (by simp [Message.view, findEntry]) rfl)
      Field.holdsRound_view fun _ _ _ =>
        PrintsAll.writes (printsAll_field hlanguage (names_enter_self ..))
  exact printsAll_concat (by
    simp [Tree.message, prints_put, hm, hfields, Message.view, findEntry])

/-- Whether there is a common error. -/
theorem gives_hasCommonError (h : sight.names "gen" = some summary.view) :
    sight.Gives (.dot "gen" "has_common_error") (.bool summary.hasCommonError) :=
  gives_dot h (by simp [Union.Summary.view, findEntry]) rfl

theorem prints_union (h : sight.names "gen" = some summary.view) :
    sight.Prints (.when (.and (.dot "gen" "has_common_error") (.dot "gen" "common_error_sub_types"))
      Tree.unionType) (unionBlock summary) := by
  have hshapes : sight.Decides (.dot "gen" "common_error_sub_types") (¬ summary.subTypes = "") :=
    decides_text (gives_dot h (by simp [Union.Summary.view, findEntry]) rfl)
  have hboth := (Decides.of_bool (gives_hasCommonError h) Iff.rfl).and rfl hshapes
  exact prints_when hboth (printsAll_concat (by
    simp [Tree.unionType, prints_put, h, Union.Summary.view, findEntry]))

theorem printsAll_types {enums : List Enumeration} {messages : List Message}
    (hlanguage : sight.language = .typescript) (hroom : 1 < sight.room)
    (henums : sight.names "enums" = some (enumsView enums))
    (hmessages : sight.names "data_types" = some (messagesView messages))
    (hsummary : sight.names "gen" = some summary.view) :
    sight.PrintsAll Tree.types (typesText enums messages summary) := by
  have hsome : 0 < sight.room := Nat.lt_of_succ_lt hroom
  have henumBlocks : sight.Prints (.forEach "enum" (.name "enums") Tree.enumeration)
      (Text.concat (enums.map enumBlock)) :=
    prints_forEach hsome (gives_name henums) Enumeration.holdsRound_view fun _ _ _ =>
      PrintsAll.writes (printsAll_enumeration (Nat.sub_pos_of_lt hroom) (names_enter_self ..))
  have hmessageBlocks : sight.Prints (.forEach "message" (.name "data_types") Tree.message)
      (Text.concat (messages.map messageBlock)) :=
    prints_forEach hsome (gives_name hmessages) Message.holdsRound_view fun _ _ _ =>
      PrintsAll.writes (printsAll_message hlanguage (Nat.sub_pos_of_lt hroom) (names_enter_self ..))
  exact printsAll_concat (by
    simp [Tree.types, henumBlocks, hmessageBlocks, prints_union hsummary])

/-! ## What a client asks of methods -/

/-- An option is read as it was given, or else as its default. -/
theorem readOption_optionsView (key default : String) (options : Options) :
    readOption key default (optionsView options) =
      .ok (.text ((options.get? key).getD default)) := by
  have hmember : (optionsView options).member key =
      ((options.get? key).map Value.text).getD .undefined := by
    rw [optionsView, Value.member_map, findEntry_map]
    rfl
  unfold readOption
  rw [hmember]
  cases options.get? key <;> simp [optionsView, Value.kind]

/-- The types that methods mention, each once, in the order in which they are mentioned first. -/
def importedNames (methods : List Method) : List String :=
  methods.foldl (fun names m => addNew (addNew names m.inputType) m.outputType) []

theorem collectTypes_views (methods : List Method) (names : List String) :
    collectTypes names (methods.map Method.view) =
      .ok (methods.foldl (fun names m => addNew (addNew names m.inputType) m.outputType)
        names) := by
  induction methods generalizing names with
  | nil => rfl
  | cons m rest ih =>
      simp [collectTypes, methodText, Method.view, Value.isUndefined, findEntry, ih]

theorem importedTypes_views (methods : List Method) :
    importedTypes (.list (methods.map Method.view)) =
      .ok (.list ((importedNames methods).map .text)) := by
  simp [importedTypes, Value.items?, collectTypes_views, importedNames]

/-! ## Clients -/

/-- The line that imports a type. -/
def importLine (name : String) : String := Text.concat ["    ", name, ",\n"]

/-- The line that imports the common error, if it is not among the names imported already. -/
def errorImport (summary : Union.Summary) (imported : List String) : String :=
  if summary.hasCommonError = true ∧ summary.commonError ∉ imported then
    importLine summary.commonError
  else ""

/-- The line that says a function rejects with an error. -/
def rejectionLine (error : String) : String :=
  Text.concat [" * Rejects with ", error, " when the service reports an error.\n"]

/-- The error that a function rejects with: its own, or else the common error of the service. -/
def rejection (summary : Union.Summary) (m : Method) : String :=
  if m.errorType = "" then
    if summary.hasCommonError = true then rejectionLine summary.commonError else ""
  else rejectionLine m.errorType

/-- How a function on axios sends its parameters. -/
def axiosSending (m : Method) : String :=
  Text.concat [
    if m.verb = "GET" then "    return axios.request(\x7b method: \"GET\", url, params \x7d)\n"
    else Text.concat ["    return axios.request(\x7b method: \"", m.verb,
      "\", url, data: params \x7d)\n"],
    axiosResponse, m.outputType, ";\n        \x7d);\n\x7d\n"]

/-- How a function on fetch sends its parameters. -/
def fetchSending (m : Method) : String :=
  Text.concat [
    if m.verb = "GET" then
      Text.concat [
        "    return call<", m.outputType,
          ">(generateQueryUrl(url, params), \x7b method: \"GET\" \x7d);\n"]
    else
      Text.concat [
        "    return call<", m.outputType, ">(url, \x7b\n        method: \"", m.verb, fetchBodyEnd],
    "\x7d\n"]

/-- The function of a method, with how it sends its parameters. -/
def functionBlock (sending : Method → String) (className : String) (summary : Union.Summary)
    (m : Method) : String :=
  Text.concat [
    "\n/**\n", rejection summary m, " */\nexport function ", m.name, "(params: ", m.inputType,
    "): Promise<", m.outputType, "> \x7b\n    const url: string = generateUrl(baseUrl, \"",
    className, "\", \"", m.name, "\");\n"] ++ sending m

/-- The file of a client, with its fixed texts and how its functions send their parameters. -/
def clientText (purpose prologue : String) (sending : Method → String) (className objects : String)
    (methods : List Method) (summary : Union.Summary) : String :=
  Text.concat [
    clientHeading, className, purpose, "import \x7b\n",
    Text.concat ((importedNames methods).map importLine),
    errorImport summary (importedNames methods),
    "\x7d from './", objects, prologue,
    Text.concat (methods.map (functionBlock sending className summary))]

variable {m : Method} {className : String}

/-- What the functions of a client see besides their method. -/
structure SeesClient (sight : Sight) (className : String) (summary : Union.Summary) : Prop where
  className : sight.names "class_name" = some (.text className)
  summary : sight.names "gen" = some summary.view
  verbOption : sight.names "service_method" = some (.function .serviceMethod)
  errorOption : sight.names "error_type" = some (.function .errorType)

/-- Statements send the parameters of every method as a text says. -/
def Sends (stmts : List Stmt) (text : Method → String) : Prop :=
  ∀ {sight : Sight} {m : Method}, sight.names "func" = some m.view →
    sight.names "verb" = some (.text m.verb) → sight.PrintsAll stmts (text m)

theorem decides_isGet (hverb : sight.names "verb" = some (.text m.verb)) :
    sight.Decides Tree.isGet (m.verb = "GET") :=
  decides_equal (gives_name hverb) "GET"

theorem sends_axios : Sends Tree.axiosSending axiosSending := by
  intro sight m hm hverb
  have hbody : sight.PrintsAll Tree.axiosBody (Text.concat
      ["    return axios.request(\x7b method: \"", m.verb, "\", url, data: params \x7d)\n"]) :=
    printsAll_concat (by simp [Tree.axiosBody, prints_name, hverb])
  have hquery : sight.PrintsAll Tree.axiosQuery
      "    return axios.request(\x7b method: \"GET\", url, params \x7d)\n" :=
    printsAll_single (prints_say _)
  exact printsAll_concat (by
    simp [Tree.axiosSending, prints_put, prints_branch (decides_isGet hverb) hquery hbody, hm,
      Method.view, findEntry])

theorem sends_fetch : Sends Tree.fetchSending fetchSending := by
  intro sight m hm hverb
  have hquery : sight.PrintsAll Tree.fetchQuery (Text.concat [
      "    return call<", m.outputType,
      ">(generateQueryUrl(url, params), \x7b method: \"GET\" \x7d);\n"]) :=
    printsAll_concat (by simp [Tree.fetchQuery, prints_put, hm, Method.view, findEntry])
  have hbody : sight.PrintsAll Tree.fetchBody (Text.concat [
      "    return call<", m.outputType, ">(url, \x7b\n        method: \"", m.verb, fetchBodyEnd]) :=
    printsAll_concat (by
      simp [Tree.fetchBody, prints_put, prints_name, hverb, hm, Method.view, findEntry])
  exact printsAll_concat (by
    simp [Tree.fetchSending, prints_branch (decides_isGet hverb) hquery hbody])

/-- The options of a method are there to be read. -/
theorem gives_options (hm : sight.names "func" = some m.view) :
    sight.Gives (.dot "func" "options") (optionsView m.options) :=
  gives_dot hm (by simp [Method.view, findEntry]) rfl

theorem prints_rejection (h : SeesClient sight className summary)
    (hm : sight.names "func" = some m.view) :
    sight.Prints Tree.rejection (rejection summary m) := by
  have herror : sight.Gives Tree.errorCall (.text m.errorType) :=
    gives_function (by decide) h.errorOption (gives_options hm) (readOption_optionsView ..)
  have hprinted : sight.Prints (.print Tree.errorCall) m.errorType :=
    prints_print (by simp [Tree.errorCall, restartArguments?]) herror rfl
  have hown : sight.PrintsAll (Tree.rejectionLine (.print Tree.errorCall))
      (rejectionLine m.errorType) :=
    printsAll_concat (by simp [Tree.rejectionLine, hprinted])
  have hcommon : sight.PrintsAll (Tree.rejectionLine (.put "gen" "common_error"))
      (rejectionLine summary.commonError) :=
    printsAll_concat (by
      simp [Tree.rejectionLine, prints_put, h.summary, Union.Summary.view, findEntry])
  exact prints_branch_not (decides_text herror) hown (printsAll_single
    (prints_when (Decides.of_bool (gives_hasCommonError h.summary) Iff.rfl) hcommon))

theorem SeesClient.bind {name : String} {v : Value} (h : SeesClient sight className summary)
    (hname : name ∉ ["class_name", "gen", "service_method", "error_type"]) :
    SeesClient (sight.bind name v) className summary := by
  simp only [List.mem_cons, List.not_mem_nil, or_false, not_or] at hname
  exact ⟨by simpa [hname] using h.className, by simpa [hname] using h.summary,
    by simpa [hname] using h.verbOption, by simpa [hname] using h.errorOption⟩

theorem SeesClient.enter {name : String} {v round : Value} (h : SeesClient sight className summary)
    (hname : name ∉ ["class_name", "gen", "service_method", "error_type"]) :
    SeesClient (sight.enter name v round) className summary := by
  simp only [List.mem_cons, List.not_mem_nil, or_false, not_or] at hname
  exact ⟨by simpa [hname] using h.className, by simpa [hname] using h.summary,
    by simpa [hname] using h.verbOption, by simpa [hname] using h.errorOption⟩

theorem writes_function {stmts : List Stmt} {sending : Method → String}
    (hsending : Sends stmts sending) (h : SeesClient sight className summary)
    (hm : sight.names "func" = some m.view) :
    sight.Writes (Tree.function stmts) (functionBlock sending className summary m) := by
  have hverb : sight.Gives (.call (.name "service_method") [.dot "func" "options"])
      (.text m.verb) :=
    gives_function (by decide) h.verbOption (gives_options hm) (readOption_optionsView ..)
  refine Writes.assign hverb rfl (PrintsAll.writes ?_)
  have hinside : SeesClient (sight.bind "verb" (.text m.verb)) className summary :=
    h.bind (by decide)
  have hmethod : (sight.bind "verb" (.text m.verb)).names "func" = some m.view := by simpa using hm
  refine PrintsAll.append (printsAll_concat ?_) (hsending hmethod (names_bind_self ..))
  simp [prints_put, prints_name, prints_rejection hinside hmethod, h.className, hm, Method.view,
    findEntry]

theorem prints_importLines {imported : List String} (hroom : 0 < sight.room)
    (himports : sight.names "imports" = some (.list (imported.map .text))) :
    sight.Prints (.forEach "name" (.name "imports") (Tree.importLine (.print (.name "name"))))
      (Text.concat (imported.map importLine)) :=
  prints_forEach hroom (gives_name himports) (fun _ => rfl) fun _ _ _ =>
    PrintsAll.writes (printsAll_concat (by simp [Tree.importLine, prints_name]))

theorem prints_errorImport {imported : List String}
    (hsummary : sight.names "gen" = some summary.view)
    (himports : sight.names "imports" = some (.list (imported.map .text))) :
    sight.Prints (.when Tree.lacksError (Tree.importLine (.put "gen" "common_error")))
      (errorImport summary imported) := by
  have hcommon : sight.Gives (.dot "gen" "common_error") (.text summary.commonError) :=
    gives_dot hsummary (by simp [Union.Summary.view, findEntry]) rfl
  have hlacks : sight.Decides Tree.lacksError
      (summary.hasCommonError = true ∧ summary.commonError ∉ imported) :=
    (Decides.of_bool (gives_hasCommonError hsummary) Iff.rfl).and rfl
      (decides_notContained hcommon (gives_name himports))
  have hline : sight.PrintsAll (Tree.importLine (.put "gen" "common_error"))
      (importLine summary.commonError) :=
    printsAll_concat (by
      simp [Tree.importLine, prints_put, hsummary, Union.Summary.view, findEntry])
  exact prints_when hlacks hline

theorem writes_client {purpose prologue objects : String} {stmts : List Stmt}
    {sending : Method → String} {methods : List Method} (hsending : Sends stmts sending)
    (hroom : 0 < sight.room) (h : SeesClient sight className summary)
    (himport : sight.names "import_types" = some (.function .importTypes))
    (hfunctions : sight.names "functions" = some (.list (methods.map Method.view)))
    (hobjects : sight.names "objs_module" = some (.text objects)) :
    sight.Writes (Tree.client purpose prologue stmts)
      (clientText purpose prologue sending className objects methods summary) := by
  have himported : sight.Gives (.call (.name "import_types") [.name "functions"])
      (.list ((importedNames methods).map .text)) :=
    gives_function (by decide) himport (gives_name hfunctions) (importedTypes_views methods)
  have hquiet : (Value.list ((importedNames methods).map .text)).holdsRound = false :=
    itemsHoldRound_map (fun _ => rfl) _
  have hclass : sight.Prints (.print (.name "class_name")) className :=
    prints_name (by simp [h.className])
  refine Writes.cons (prints_say _) (Writes.cons hclass (Writes.cons (prints_say _)
    (Writes.assign himported hquiet (PrintsAll.writes (printsAll_concat ?_)))))
  -- what follows sees the imports under a name
  have hinside : SeesClient (sight.bind "imports" (.list ((importedNames methods).map .text)))
      className summary := h.bind (by decide)
  have hfunctionBlocks : (sight.bind "imports" (.list ((importedNames methods).map .text))).Prints
      (.forEach "func" (.name "functions") (Tree.function stmts))
      (Text.concat (methods.map (functionBlock sending className summary))) :=
    prints_forEach hroom (gives_name (by simpa using hfunctions)) Method.holdsRound_view
      fun _ _ _ => writes_function hsending (hinside.enter (by decide)) (names_enter_self ..)
  simp [prints_importLines (by simpa using hroom) (names_bind_self ..),
    prints_errorImport hinside.summary (names_bind_self ..), hfunctionBlocks, prints_name, hobjects]

/-! ## Files -/

theorem renders_types (request : Request) (service : Option Service)
    (messages shown : List Message) :
    Renders .typescript (Backend.typescriptContext request service messages shown) Tree.types
      (typesText request.enums shown
        (Union.summary .typescript messages (Backend.commonErrorOf service))) :=
  renders_of_writes (PrintsAll.writes (printsAll_types rfl (by simp)
    (by simp [Backend.typescriptContext, findEntry])
    (by simp [Backend.typescriptContext, findEntry])
    (by simp [Backend.typescriptContext, Backend.summaryOf, findEntry])))

theorem renders_helper (context : Context) :
    Renders .typescript context Tree.helper (Asset.linesText Asset.Builtin.Typescript.helper) :=
  renders_of_writes (PrintsAll.writes (printsAll_single (prints_say _)))

theorem renders_client {stmts : List Stmt} {sending : Method → String}
    (hsending : Sends stmts sending) (purpose prologue : String) (request : Request) (s : Service)
    (messages shown : List Message) :
    Renders .typescript (Backend.typescriptContext request (some s) messages shown)
      (Tree.client purpose prologue stmts)
      (clientText purpose prologue sending s.name (s.name ++ "Objs") s.methods
        (Union.summary .typescript messages s.commonError?)) := by
  refine renders_of_writes (writes_client hsending (by simp) ⟨?_, ?_, ?_, ?_⟩ ?_ ?_ ?_)
  · simp [Backend.typescriptContext, findEntry, Request.baseNameOf]
  · simp [Backend.typescriptContext, findEntry, Backend.summaryOf, Backend.commonErrorOf]
  · simp [Backend.typescriptContext, findEntry, Function.ofName?, Function.all, Function.name]
  · simp [Backend.typescriptContext, findEntry, Function.ofName?, Function.all, Function.name]
  · simp [Backend.typescriptContext, findEntry, Function.ofName?, Function.all, Function.name]
  · simp [Backend.typescriptContext, findEntry]
  · simp [Backend.typescriptContext, findEntry, Request.baseNameOf]

end ApiStubs.Typescript
