import ApiStubs.Proofs.Interfaces
import ApiStubs.Proofs.Text.Lines
import ApiStubs.Proofs.Verbs

/-!
# The TypeScript clients, call by call

A client has a function for every method of its service, in order, and nothing behind them.  What a
function does is one call: the types it takes and gives, the error that it is said to reject with,
the verb, and whether the parameters go into the query.  The calls follow from the service alone, so
that the two transports make the same calls in two ways of writing.  The calls can be read off the
lines of either file as long as names keep to their lines.
-/

namespace ApiStubs

/-! ## Calls -/

/-- What the function of a client does. -/
structure Call where
  name : String
  input : String
  output : String
  /-- the error that the function is said to reject with -/
  rejects : Option String
  verb : String
  /-- whether the parameters go into the query rather than into the body -/
  inQuery : Bool
  deriving DecidableEq, Repr

/-- The call of a method of a service.  An error of the method's own goes before the common error of
the service. -/
def Service.call (s : Service) (m : Method) : Call where
  name := m.name
  input := m.inputType
  output := m.outputType
  rejects := if m.errorType = "" then s.commonError? else some m.errorType
  verb := m.verb
  inQuery := m.verb == "GET"

/-- The ways in which a TypeScript client sends its calls. -/
inductive Transport where
  | axios
  | fetch
  deriving DecidableEq, Repr

namespace Transport

/-- The backend that writes the client. -/
def backend : Transport → Backend
  | .axios => .axios
  | .fetch => .fetch

/-! ## Clients line by line -/

/-- What a client says of itself, and the library that it needs. -/
def headingLines (service : String) : Transport → List String
  | .axios => [
      "/**",
      " * This file is generated by 'protoapi'",
      " * It contains client code for " ++ service ++ " built on the 'axios' library,",
      " * which must be installed in the project.",
      " * DO NOT EDIT.",
      " */",
      "import axios from 'axios';"]
  | .fetch => [
      "/**",
      " * This file is generated by 'protoapi'",
      " * It contains client code for " ++ service ++ " built on the browser fetch API.",
      " * DO NOT EDIT.",
      " */"]

/-- What the functions of a client share. -/
def sharedLines : Transport → List String
  | .axios => [
      "import \x7b generateUrl \x7d from './helper';",
      "",
      "let baseUrl = \"http://localhost:8080\";",
      "",
      "export function setBaseUrl(url: string) \x7b",
      "    baseUrl = url;",
      "\x7d"]
  | .fetch => [
      "import \x7b generateQueryUrl, generateUrl \x7d from './helper';",
      "",
      "let baseUrl = \"http://localhost:8080\";",
      "",
      "export function setBaseUrl(url: string) \x7b",
      "    baseUrl = url;",
      "\x7d",
      "",
      "function call<T>(url: string, init: RequestInit): Promise<T> \x7b",
      "    return fetch(url, init)",
      "        .then(res => res.json())",
      "        .then(data => \x7b",
      "            if (data.error) \x7b",
      "                return Promise.reject(data.error);",
      "            \x7d",
      "            return data.response as T;",
      "        \x7d);",
      "\x7d"]

/-- The lines of the names that a client imports. -/
def importLines (names : List String) : List String := names.map fun name => "    " ++ name ++ ","

/-- What stands before the functions: the heading, the imports and what the functions share. -/
def openingLines (s : Service) (transport : Transport) : List String :=
  transport.headingLines s.name ++ ["import \x7b"] ++ importLines s.importNames ++
    ["\x7d from './" ++ s.name ++ "Objs';"] ++ transport.sharedLines

/-- How a function sends its call. -/
def sendingLines (c : Call) : Transport → List String
  | .axios => [
      "    return axios.request(\x7b method: \"" ++ c.verb ++ "\", url, " ++
        (if c.inQuery = true then "params" else "data: params") ++ " \x7d)",
      "        .then(res => \x7b",
      "            if (res.data.error) \x7b",
      "                return Promise.reject(res.data.error);",
      "            \x7d",
      "            return res.data.response as " ++ c.output ++ ";",
      "        \x7d);",
      "\x7d"]
  | .fetch =>
    if c.inQuery = true then [
      "    return call<" ++ c.output ++ ">(generateQueryUrl(url, params), \x7b method: \"" ++
        c.verb ++ "\" \x7d);",
      "\x7d"]
    else [
      "    return call<" ++ c.output ++ ">(url, \x7b",
      "        method: \"" ++ c.verb ++ "\",",
      "        headers: \x7b \"Content-Type\": \"application/json\" \x7d,",
      "        body: JSON.stringify(params),",
      "    \x7d);",
      "\x7d"]

end Transport

namespace Call

/-- The line of the comment that names the error, if there is one. -/
def rejectionLines (c : Call) : List String :=
  c.rejects.toList.map fun error => " * Rejects with " ++ error ++
    " when the service reports an error."

/-- The function of a call. -/
def functionLines (transport : Transport) (service : String) (c : Call) : List String :=
  ["", "/**"] ++ c.rejectionLines ++ [
    " */",
    "export function " ++ (c.name ++ "(params: " ++ c.input ++ "): Promise<" ++ c.output) ++
      "> \x7b",
    "    const url: string = generateUrl(baseUrl, \"" ++ service ++ "\", \"" ++ c.name ++ "\");"] ++
  transport.sendingLines c

end Call

/-- The file of a client that makes calls for a service. -/
def Transport.clientText (transport : Transport) (s : Service) (calls : List Call) : String :=
  Asset.linesText (transport.openingLines s ++ calls.flatMap (Call.functionLines transport s.name))

/-! ## What the templates write -/

namespace Typescript

open Asset

theorem rejection_eq (messages : List Message) (s : Service) (m : Method) :
    rejection (Union.summary .typescript messages s.commonError?) m =
      linesText (s.call m).rejectionLines := by
  have hline (error : String) : rejectionLine error =
      linesText [" * Rejects with " ++ error ++ " when the service reports an error."] := by
    rw [rejectionLine]
    simp only [linesText_cons, linesText_nil, Text.concat, String.append_assoc, String.append_empty,
      String.reduceAppend]
  by_cases hown : m.errorType = ""
  · cases herror : s.commonError? with
    | none =>
      simp [rejection, hown, Union.summary, Call.rejectionLines, Service.call, herror,
        linesText_nil]
    | some error =>
      simp [rejection, hown, Union.summary, Call.rejectionLines, Service.call, herror, hline]
  · simp [rejection, hown, Call.rejectionLines, Service.call, hline]

theorem axiosSending_eq_lines (s : Service) (m : Method) :
    axiosSending m = linesText (Transport.axios.sendingLines (s.call m)) := by
  have hresponse : axiosResponse = linesText [
      "        .then(res => \x7b",
      "            if (res.data.error) \x7b",
      "                return Promise.reject(res.data.error);",
      "            \x7d"] ++ "            return res.data.response as " := by decide +kernel
  rw [axiosSending_eq, axiosCall, hresponse]
  simp only [Transport.sendingLines, Service.call, beq_iff_eq, linesText_cons, linesText_nil,
    Text.concat, String.append_assoc, String.append_empty]
  simp only [Text.append_literals, String.reduceEq, not_false_eq_true, String.reduceAppend]

theorem fetchSending_eq_lines (s : Service) (m : Method) :
    fetchSending m = linesText (Transport.fetch.sendingLines (s.call m)) := by
  have hbody : fetchBodyEnd = "\"," ++ ("\n" ++ linesText [
      "        headers: \x7b \"Content-Type\": \"application/json\" \x7d,",
      "        body: JSON.stringify(params),",
      "    \x7d);"]) := by decide +kernel
  rw [fetchSending_eq, fetchCall, hbody]
  by_cases hget : m.verb = "GET"
  · simp only [Transport.sendingLines, Service.call, hget, beq_self_eq_true, if_true,
      linesText_cons, linesText_nil, Text.concat, String.append_assoc, String.append_empty]
    simp only [String.reduceAppend]
  · simp only [Transport.sendingLines, Service.call, hget, beq_iff_eq, if_false, linesText_cons,
      linesText_nil, Text.concat, String.append_assoc, String.append_empty]
    simp only [Text.append_literals, String.reduceEq, not_false_eq_true, String.reduceAppend]

/-- The functions of a method in the two clients are those of its call. -/
theorem functionBlock_eq {transport : Transport} {sending : Method → String} {s : Service}
    {m : Method} (hsending : sending m = linesText (transport.sendingLines (s.call m)))
    (messages : List Message) :
    functionBlock sending s.name (Union.summary .typescript messages s.commonError?) m =
      linesText ((s.call m).functionLines transport s.name) := by
  rw [functionBlock, rejection_eq, hsending, Call.functionLines]
  simp only [Service.call, linesText_append, linesText_cons, linesText_nil, Text.concat,
    String.append_assoc, String.append_empty, String.empty_append]
  simp only [Text.append_literals, String.reduceEq, not_false_eq_true, String.reduceAppend]

/-- What the client of a transport says of itself and shares between its functions, as lines, and
how it sends calls. -/
structure WritesLines (transport : Transport) (purpose prologue : String)
    (sending : Method → String) : Prop where
  heading : ∀ service, clientHeading ++ (service ++ purpose) =
    linesText (transport.headingLines service)
  shared : prologue = "';" ++ ("\n" ++ linesText transport.sharedLines)
  sending : ∀ (s : Service) (m : Method), sending m = linesText (transport.sendingLines (s.call m))

/-- The fixed texts of the clients as lines. -/
theorem clientTexts_eq :
    clientHeading = linesText ["/**", " * This file is generated by 'protoapi'"] ++
      " * It contains client code for " ∧
    axiosPurpose = " built on the 'axios' library," ++ ("\n" ++ linesText [
      " * which must be installed in the project.", " * DO NOT EDIT.", " */",
      "import axios from 'axios';"]) ∧
    axiosPrologue = "';" ++ ("\n" ++ linesText Transport.axios.sharedLines) ∧
    fetchPurpose = " built on the browser fetch API." ++
      ("\n" ++ linesText [" * DO NOT EDIT.", " */"]) ∧
    fetchPrologue = "';" ++ ("\n" ++ linesText Transport.fetch.sharedLines) := by
  decide +kernel

theorem writesLines_axios : WritesLines .axios axiosPurpose axiosPrologue axiosSending := by
  obtain ⟨hheading, hpurpose, hprologue, -, -⟩ := clientTexts_eq
  refine ⟨fun service => ?_, hprologue, axiosSending_eq_lines⟩
  rw [hheading, hpurpose]
  simp only [Transport.headingLines, linesText_cons, linesText_nil, String.append_assoc,
    String.append_empty]

theorem writesLines_fetch : WritesLines .fetch fetchPurpose fetchPrologue fetchSending := by
  obtain ⟨hheading, -, -, hpurpose, hprologue⟩ := clientTexts_eq
  refine ⟨fun service => ?_, hprologue, fetchSending_eq_lines⟩
  rw [hheading, hpurpose]
  simp only [Transport.headingLines, linesText_cons, linesText_nil, String.append_assoc,
    String.append_empty]

theorem linesText_importLines (names : List String) :
    linesText (Transport.importLines names) = Text.concat (names.map importLine) := by
  have hline (name : String) : "    " ++ name ++ "," ++ "\n" = importLine name := by
    rw [importLine]
    simp only [Text.concat, String.append_assoc, String.append_empty, String.reduceAppend]
  simp only [Transport.importLines, linesText_map, hline]

/-- The client of a service makes the calls of its methods. -/
theorem clientText_eq {transport : Transport} {purpose prologue : String}
    {sending : Method → String} (h : WritesLines transport purpose prologue sending)
    (messages : List Message) (s : Service) :
    clientText purpose prologue sending s.name (s.name ++ "Objs") s.methods
        (Union.summary .typescript messages s.commonError?) =
      transport.clientText s (s.methods.map s.call) := by
  have hfunctions : Text.concat (s.methods.map (functionBlock sending s.name
      (Union.summary .typescript messages s.commonError?))) =
        linesText ((s.methods.map s.call).flatMap (Call.functionLines transport s.name)) := by
    rw [List.flatMap_map, linesText_flatMap]
    exact congrArg Text.concat (List.map_congr_left fun m _ => functionBlock_eq
      (h.sending s m) messages)
  have himports : Text.concat ((importedNames s.methods).map importLine) ++
      errorImport (Union.summary .typescript messages s.commonError?) (importedNames s.methods) =
        linesText (Transport.importLines s.importNames) := by
    rw [errorImport_eq, ← Text.concat_append, ← List.map_append, linesText_importLines,
      Service.importNames]
  rw [clientText, Transport.clientText, Transport.openingLines, hfunctions, h.shared]
  simp only [linesText_append, linesText_cons, linesText_nil, ← h.heading, ← himports, Text.concat,
    String.append_assoc, String.append_empty]
  simp only [Text.append_literals, String.reduceEq, not_false_eq_true, String.reduceAppend]

end Typescript

/-! ## Reading calls -/

/-- The error that a line of a comment names. -/
def rejectedError? (line : String) : Option String :=
  Text.between? " * Rejects with " " when the service reports an error." line

/-- The name, the input and the output of the function that a line opens. -/
def signature? (line : String) : Option (String × String × String) :=
  match Text.between? "export function " "> \x7b" line with
  | none => none
  | some body =>
    match Text.splitOnce '(' body.toList with
    | none => none
    | some (name, rest) =>
      match Text.splitOnce ')' rest with
      | none => none
      | some (parameter, result) =>
        match Text.afterLead? "params: ".toList parameter,
          Text.afterLead? ": Promise<".toList result with
        | some input, some output => some (String.ofList name, String.ofList input,
          String.ofList output)
        | _, _ => none

/-- The verb under which lines send a call, and whether its parameters go into the query. -/
def Transport.sent? (output : String) (lines : List String) : Transport → Option (String × Bool)
  | .axios =>
    match lines with
    | [] => none
    | line :: _ =>
      match Text.between? "    return axios.request(\x7b method: \""
        "\", url, params \x7d)" line with
      | some verb => some (verb, true)
      | none =>
        (Text.between? "    return axios.request(\x7b method: \""
          "\", url, data: params \x7d)" line).map
          fun verb => (verb, false)
  | .fetch =>
    match lines with
    | line :: next :: _ =>
      match Text.between? ("    return call<" ++ output ++
        ">(generateQueryUrl(url, params), \x7b method: \"")
          "\" \x7d);" line with
      | some verb => some (verb, true)
      | none => (Text.between? "        method: \"" "\"," next).map fun verb => (verb, false)
    | _ => none

/-- The call of the function that a line opens, with the lines behind it: the second of those sends
the call. -/
def Transport.call? (transport : Transport) (error : Option String) (line : String)
    (rest : List String) :
    Option Call :=
  match signature? line with
  | none => none
  | some (name, input, output) =>
    (transport.sent? output (rest.drop 1)).map fun sent =>
      ⟨name, input, output, error, sent.1, sent.2⟩

/-- The calls in lines, where a comment may have named an error already. -/
def Transport.readCalls (transport : Transport) : Option String → List String → List Call
  | _, [] => []
  | error, line :: rest =>
    match rejectedError? line with
    | some named => transport.readCalls (some named) rest
    | none =>
      match transport.call? error line rest with
      | none => transport.readCalls error rest
      | some call => call :: transport.readCalls none rest

/-- The calls that the file of a client makes, in order. -/
def Transport.calls (transport : Transport) (text : String) : List Call :=
  transport.readCalls none (Text.segments '\n' text)

/-- A line that is neither part of a comment on errors nor opens a function. -/
structure IsSilent (line : String) : Prop where
  comment : rejectedError? line = none
  function : signature? line = none

instance (line : String) : Decidable (IsSilent line) :=
  decidable_of_iff (rejectedError? line = none ∧ signature? line = none)
    ⟨fun h => ⟨h.1, h.2⟩, fun h => ⟨h.comment, h.function⟩⟩

/-- A line that starts otherwise is silent. -/
theorem isSilent_append {start : String}
    (hcomment : ¬ start.toList <+: " * Rejects with ".toList ∧
      ¬ " * Rejects with ".toList <+: start.toList)
    (hfunction : ¬ start.toList <+: "export function ".toList ∧
      ¬ "export function ".toList <+: start.toList)
    (s : String) : IsSilent (start ++ s) := by
  refine ⟨Text.between?_append_eq_none hcomment _ s, ?_⟩
  rw [signature?, Text.between?_append_eq_none hfunction]

/-- The first two characters can tell that a line is silent. -/
theorem isSilent_ofList_append {c d : Char} (hcomment : ¬ (c = ' ' ∧ d = '*')) (hfunction : c ≠ 'e')
    (chars : List Char) (s : String) : IsSilent (String.ofList (c :: d :: chars) ++ s) := by
  refine isSilent_append ?_ ?_ s
  · simp only [String.toList_ofList]
    grind
  · simp only [String.toList_ofList]
    grind

theorem isSilent_ofList {c d : Char} (hcomment : ¬ (c = ' ' ∧ d = '*')) (hfunction : c ≠ 'e')
    (chars : List Char) : IsSilent (String.ofList (c :: d :: chars)) := by
  simpa using isSilent_ofList_append hcomment hfunction chars ""

theorem isSilent_empty : IsSilent "" := by decide

theorem isSilent_end : IsSilent "\x7d" := by decide +kernel

/-- The texts of a call keep to one line, and those in its signature end before a bracket. -/
def Call.IsPlain (c : Call) : Prop :=
  (Text.OneLine c.name ∧ '(' ∉ c.name.toList) ∧ (Text.OneLine c.input ∧ ')' ∉ c.input.toList) ∧
    Text.OneLine c.output ∧ (∀ error ∈ c.rejects, Text.OneLine error) ∧ Text.OneLine c.verb

instance (c : Call) : Decidable c.IsPlain := inferInstanceAs (Decidable (_ ∧ _ ∧ _ ∧ _ ∧ _))

/-- The texts of a service that show in a client keep to one line. -/
def Service.IsPlain (s : Service) : Prop :=
  Text.OneLine s.name ∧ (∀ error ∈ s.commonError?, Text.OneLine error) ∧
    ∀ m ∈ s.methods, (s.call m).IsPlain

instance (s : Service) : Decidable s.IsPlain := inferInstanceAs (Decidable (_ ∧ _ ∧ _))

theorem signature?_eq {c : Call} (h : c.IsPlain) :
    signature? ("export function " ++
      (c.name ++ "(params: " ++ c.input ++ "): Promise<" ++ c.output) ++
      "> \x7b") = some (c.name, c.input, c.output) := by
  obtain ⟨⟨-, hname⟩, ⟨-, hinput⟩, -, -, -⟩ := h
  have hbody : (c.name ++ "(params: " ++ c.input ++ "): Promise<" ++ c.output).toList =
      c.name.toList ++ '(' :: ("params: ".toList ++ c.input.toList ++
        ')' :: (": Promise<".toList ++ c.output.toList)) := by
    simp
  have hparameter : ')' ∉ "params: ".toList ++ c.input.toList := by
    intro hmem
    rcases List.mem_append.1 hmem with hlead | hmem
    · revert hlead
      decide
    · exact hinput hmem
  simp only [signature?, Text.between?_self, hbody, Text.splitOnce_append hname,
    Text.splitOnce_append hparameter, Text.afterLead?_append, String.ofList_toList]

theorem sent?_axios (c : Call) (rest : List String) :
    Transport.axios.sent? c.output (Transport.axios.sendingLines c ++ rest) =
      some (c.verb, c.inQuery) := by
  have hline (place : String) : "    return axios.request(\x7b method: \"" ++ c.verb ++
      "\", url, " ++ place ++
      " \x7d)" =
        "    return axios.request(\x7b method: \"" ++ c.verb ++
          ("\", url, " ++ place ++ " \x7d)") := by
    simp only [String.append_assoc]
  have hquery : "\", url, " ++ "params" ++ " \x7d)" = "\", url, params \x7d)" := by simp
  have hbody : "\", url, " ++ "data: params" ++ " \x7d)" = "\", url, data: params \x7d)" := by simp
  cases hplace : c.inQuery with
  | true =>
    simp only [Transport.sendingLines, Transport.sent?, List.cons_append, hplace, if_true, hline,
      hquery, Text.between?_self]
  | false =>
    have hnone : Text.between? "    return axios.request(\x7b method: \"" "\", url, params \x7d)"
        ("    return axios.request(\x7b method: \"" ++ c.verb ++ "\", url, data: params \x7d)") =
          none := by
      refine Text.between?_eq_none fun body h => ?_
      have hlist := congrArg (fun s : String => s.toList.reverse) h
      simp at hlist
    simp only [Transport.sendingLines, Transport.sent?, List.cons_append, hplace,
      Bool.false_eq_true, if_false, hline, hbody, hnone, Text.between?_self, Option.map_some]

theorem sent?_fetch (c : Call) (rest : List String) :
    Transport.fetch.sent? c.output (Transport.fetch.sendingLines c ++ rest) =
      some (c.verb, c.inQuery) := by
  cases hplace : c.inQuery with
  | true =>
    simp only [Transport.sendingLines, Transport.sent?, List.cons_append, hplace, if_true,
      Text.between?_self]
  | false =>
    have hnone : Text.between?
        ("    return call<" ++ c.output ++ ">(generateQueryUrl(url, params), \x7b method: \"")
          "\" \x7d);"
        ("    return call<" ++ c.output ++ ">(url, \x7b") = none := by
      refine Text.between?_eq_none fun body h => ?_
      have hlist := congrArg (fun s : String => s.toList.reverse) h
      simp at hlist
    simp only [Transport.sendingLines, Transport.sent?, List.cons_append, hplace,
      Bool.false_eq_true, if_false, hnone, Text.between?_self, Option.map_some]

/-- The verb and the place of the parameters are read off the lines that send a call. -/
theorem sent?_sendingLines (transport : Transport) (c : Call) (rest : List String) :
    transport.sent? c.output (transport.sendingLines c ++ rest) = some (c.verb, c.inQuery) := by
  cases transport with
  | axios => exact sent?_axios c rest
  | fetch => exact sent?_fetch c rest

/-! ## Reading a client -/

namespace Transport

variable {transport : Transport} {error : Option String} {line : String} {c : Call}

theorem readCalls_cons_of_isSilent (h : IsSilent line) (rest : List String) :
    transport.readCalls error (line :: rest) = transport.readCalls error rest := by
  have hcall : transport.call? error line rest = none := by rw [call?, h.function]
  rw [readCalls, h.comment, hcall]

/-- Silent lines are passed over. -/
theorem readCalls_append {lines : List String} (h : ∀ line ∈ lines, IsSilent line)
    (rest : List String) :
    transport.readCalls error (lines ++ rest) = transport.readCalls error rest := by
  induction lines with
  | nil => rfl
  | cons line lines ih =>
    obtain ⟨hline, hlines⟩ := List.forall_mem_cons.1 h
    rw [List.cons_append, readCalls_cons_of_isSilent hline, ih hlines]

/-- The comment of a function names its error. -/
theorem readCalls_rejectionLines (c : Call) (rest : List String) :
    transport.readCalls none (c.rejectionLines ++ rest) = transport.readCalls c.rejects rest := by
  unfold Call.rejectionLines
  cases c.rejects with
  | none => rfl
  | some named =>
    have hnamed : rejectedError? (" * Rejects with " ++ named ++
        " when the service reports an error.") =
        some named := Text.between?_self ..
    rw [Option.toList_some, List.map_singleton, List.singleton_append, readCalls, hnamed]

theorem isSilent_sendingLines (transport : Transport) (c : Call) :
    ∀ line ∈ transport.sendingLines c, IsSilent line := by
  cases transport <;> cases hplace : c.inQuery <;>
    simp only [sendingLines, hplace, Bool.false_eq_true, if_true, if_false, List.forall_mem_cons,
      List.not_mem_nil, false_imp_iff, implies_true, and_true, String.append_assoc,
      isSilent_end] <;>
    and_intros <;> with_reducible first
      | exact isSilent_ofList_append (by decide) (by decide) _ _
      | exact isSilent_ofList (by decide) (by decide) _

theorem readCalls_cons_of_call? (herror : rejectedError? line = none) {rest : List String}
    (hcall : transport.call? error line rest = some c) :
    transport.readCalls error (line :: rest) = c :: transport.readCalls none rest := by
  rw [readCalls, herror, hcall]

/-- The lines of a function are read as its call. -/
theorem readCalls_functionLines (h : c.IsPlain) (service : String) (rest : List String) :
    transport.readCalls none (c.functionLines transport service ++ rest) =
      c :: transport.readCalls none rest := by
  obtain ⟨signature, hsignature⟩ : ∃ signature, signature =
    "export function " ++ (c.name ++ "(params: " ++ c.input ++ "): Promise<" ++ c.output) ++
      "> \x7b" :=
    ⟨_, rfl⟩
  obtain ⟨url, hurl⟩ : ∃ url, url =
    "    const url: string = generateUrl(baseUrl, \"" ++ service ++ "\", \"" ++ c.name ++
      "\");" := ⟨_, rfl⟩
  have hlines : c.functionLines transport service ++ rest = ["", "/**"] ++ (c.rejectionLines ++
      ([" */"] ++ signature :: (url :: transport.sendingLines c ++ rest))) := by
    simp only [Call.functionLines, hsignature, hurl, List.append_assoc, List.cons_append,
      List.nil_append]
  have hopening : ∀ line ∈ ["", "/**"], IsSilent line := by decide +kernel
  have hclosing : ∀ line ∈ [" */"], IsSilent line := by decide +kernel
  have herror : rejectedError? signature = none := by
    rw [hsignature, String.append_assoc]
    exact Text.between?_append_eq_none (by simp) _ _
  have hcall : transport.call? c.rejects signature (url :: transport.sendingLines c ++ rest) =
      some c := by
    simp only [call?, hsignature, signature?_eq h, List.cons_append, List.drop_one, List.tail_cons,
      sent?_sendingLines, Option.map_some]
  have hbody : ∀ line ∈ url :: transport.sendingLines c, IsSilent line := by
    refine List.forall_mem_cons.2 ⟨?_, transport.isSilent_sendingLines c⟩
    rw [hurl]
    simp only [String.append_assoc]
    exact isSilent_append (by simp) (by simp) _
  rw [hlines, readCalls_append hopening, readCalls_rejectionLines, readCalls_append hclosing,
    readCalls_cons_of_call? herror hcall, readCalls_append hbody]

/-- The lines of functions are read as their calls. -/
theorem readCalls_flatMap {calls : List Call} (h : ∀ c ∈ calls, c.IsPlain) (service : String)
    (rest : List String) :
    transport.readCalls none (calls.flatMap (Call.functionLines transport service) ++ rest) =
      calls ++ transport.readCalls none rest := by
  induction calls with
  | nil => rfl
  | cons c calls ih =>
    obtain ⟨hc, hcalls⟩ := List.forall_mem_cons.1 h
    rw [List.flatMap_cons, List.append_assoc, readCalls_functionLines hc, ih hcalls,
      List.cons_append]

theorem isSilent_headingLines (transport : Transport) (service : String) :
    ∀ line ∈ transport.headingLines service, IsSilent line := by
  have hclosed : ∀ line ∈ ["/**", " * This file is generated by 'protoapi'",
      " * which must be installed in the project.", " * DO NOT EDIT.", " */",
      "import axios from 'axios';"], IsSilent line := by decide +kernel
  have hservice (rest : String) :
      IsSilent (" * It contains client code for " ++ service ++ rest) := by
    rw [String.append_assoc]
    exact isSilent_append (by simp) (by simp) _
  cases transport <;> simp_all [headingLines]

theorem isSilent_sharedLines (transport : Transport) :
    ∀ line ∈ transport.sharedLines, IsSilent line := by
  have hbase : IsSilent "export function setBaseUrl(url: string) \x7b" := by decide +kernel
  cases transport <;>
    simp only [sharedLines, List.forall_mem_cons, List.not_mem_nil, false_imp_iff, implies_true,
      and_true, true_and, isSilent_empty, isSilent_end, hbase] <;>
    and_intros <;> exact isSilent_ofList (by decide) (by decide) _

theorem isSilent_openingLines (transport : Transport) (s : Service) :
    ∀ line ∈ transport.openingLines s, IsSilent line := by
  intro line hline
  simp only [openingLines, List.mem_append, List.mem_singleton] at hline
  rcases hline with (((hheading | rfl) | himport) | rfl) | hshared
  · exact transport.isSilent_headingLines s.name line hheading
  · exact isSilent_ofList (by decide) (by decide) _
  · obtain ⟨name, -, rfl⟩ := List.mem_map.1 himport
    rw [String.append_assoc]
    exact isSilent_ofList_append (by decide) (by decide) _ _
  · rw [String.append_assoc]
    exact isSilent_append (by simp) (by simp) _
  · exact transport.isSilent_sharedLines line hshared

theorem oneLine_sendingLines (h : c.IsPlain) (transport : Transport) :
    ∀ line ∈ transport.sendingLines c, Text.OneLine line := by
  obtain ⟨-, -, houtput, -, hverb⟩ := h
  cases transport <;> cases hplace : c.inQuery <;>
    simp only [sendingLines, hplace, Bool.false_eq_true, if_true, if_false, List.forall_mem_cons,
      List.not_mem_nil, false_imp_iff, implies_true, and_true, Text.oneLine_append, houtput,
      hverb] <;>
    and_intros <;> exact Text.oneLine_ofList rfl

theorem oneLine_functionLines (h : c.IsPlain) {service : String} (hservice : Text.OneLine service) :
    ∀ line ∈ c.functionLines transport service, Text.OneLine line := by
  obtain ⟨⟨hname, -⟩, ⟨hinput, -⟩, houtput, hrejects, -⟩ := id h
  have hrejection : ∀ line ∈ c.rejectionLines, Text.OneLine line := by
    intro line hline
    obtain ⟨error, herror, rfl⟩ := List.mem_map.1 hline
    have hone := hrejects error (Option.mem_toList.1 herror)
    exact Text.oneLine_append.2 ⟨Text.oneLine_append.2 ⟨Text.oneLine_ofList rfl, hone⟩,
      Text.oneLine_ofList rfl⟩
  simp only [Call.functionLines, List.forall_mem_append]
  refine ⟨⟨⟨by decide, hrejection⟩, ?_⟩, oneLine_sendingLines h transport⟩
  simp only [List.forall_mem_cons, List.not_mem_nil, false_imp_iff, implies_true, and_true,
    true_and, Text.oneLine_append, hname, hinput, houtput, hservice]
  and_intros <;> exact Text.oneLine_ofList rfl

theorem oneLine_headingLines {service : String} (h : Text.OneLine service) (transport : Transport) :
    ∀ line ∈ transport.headingLines service, Text.OneLine line := by
  cases transport <;>
    simp only [headingLines, List.forall_mem_cons, List.not_mem_nil, false_imp_iff, implies_true,
      and_true, Text.oneLine_append, h] <;>
    and_intros <;> exact Text.oneLine_ofList rfl

theorem oneLine_sharedLines (transport : Transport) :
    ∀ line ∈ transport.sharedLines, Text.OneLine line := by
  cases transport <;>
    simp only [sharedLines, List.forall_mem_cons, List.not_mem_nil, false_imp_iff, implies_true,
      and_true] <;>
    and_intros <;> exact Text.oneLine_ofList rfl

theorem oneLine_openingLines {s : Service} (h : s.IsPlain) :
    ∀ line ∈ transport.openingLines s, Text.OneLine line := by
  obtain ⟨hname, herror, hmethods⟩ := id h
  have himports : ∀ line ∈ importLines s.importNames, Text.OneLine line := by
    intro line hline
    obtain ⟨imported, himported, rfl⟩ := List.mem_map.1 hline
    have hone : Text.OneLine imported := by
      rcases Service.mem_importNames.1 himported with ⟨m, hm, rfl | rfl⟩ | hcommon
      · exact (hmethods m hm).2.1.1
      · exact (hmethods m hm).2.2.1
      · exact herror imported hcommon
    exact Text.oneLine_append.2 ⟨Text.oneLine_append.2 ⟨Text.oneLine_ofList rfl, hone⟩,
      Text.oneLine_ofList rfl⟩
  simp only [openingLines, List.forall_mem_append, List.forall_mem_singleton, Text.oneLine_append]
  exact ⟨⟨⟨⟨transport.oneLine_headingLines hname, Text.oneLine_ofList rfl⟩, himports⟩,
    ⟨Text.oneLine_ofList rfl, hname⟩, Text.oneLine_ofList rfl⟩, transport.oneLine_sharedLines⟩

/-- The file of a client can be read: its calls are those that it was written for. -/
theorem calls_clientText {s : Service} (h : s.IsPlain) (transport : Transport) :
    transport.calls (transport.clientText s (s.methods.map s.call)) = s.methods.map s.call := by
  obtain ⟨hname, -, hmethods⟩ := id h
  have hcalls : ∀ c ∈ s.methods.map s.call, c.IsPlain := by
    intro c hc
    obtain ⟨m, hm, rfl⟩ := List.mem_map.1 hc
    exact hmethods m hm
  have hlines : ∀ line ∈ transport.openingLines s ++
      (s.methods.map s.call).flatMap (Call.functionLines transport s.name), Text.OneLine line := by
    intro line hline
    rcases List.mem_append.1 hline with hopening | hfunction
    · exact oneLine_openingLines h line hopening
    · obtain ⟨c, hc, hline⟩ := List.mem_flatMap.1 hfunction
      exact oneLine_functionLines (hcalls c hc) hname line hline
  rw [calls, clientText, (Text.HasLines.linesText hlines).segments_eq, List.append_assoc,
    readCalls_append (transport.isSilent_openingLines s), readCalls_flatMap hcalls,
    readCalls_cons_of_isSilent isSilent_empty, readCalls, List.append_nil]

end Transport

/-! ## Clients in a run -/

/-- What the client of a transport has on its pages. -/
theorem get?_client_of_generate {request : Request} {s : Service}
    (hservice : request.services = [s]) {transport : Transport} {name : String}
    (hname : (name, transport.backend) ∈ typescriptBackends) {files : OutputFiles}
    (hfiles : (Generator.standard .builtin).generate name request = .ok files) :
    files.get? (s.name ++ ".ts") = some (transport.clientText s (s.methods.map s.call)) := by
  have hsome : request.services = (some s).toList := hservice
  rw [generate_builtin_of_found (find_standard (mem_standardBackends hname)) hsome] at hfiles
  cases transport with
  | axios =>
    rw [← Typescript.clientText_eq Typescript.writesLines_axios (flattenAll request.messages)]
    exact OutputFiles.get?_addAll hfiles (Backend.clientPage_mem rfl)
  | fetch =>
    rw [← Typescript.clientText_eq Typescript.writesLines_fetch (flattenAll request.messages)]
    exact OutputFiles.get?_addAll hfiles (Backend.clientPage_mem rfl)

/-- A client has its heading, the imported names and what the functions share, and then a function
for every method in order, which makes the call of the method.  The same calls can be read off the
clients of both transports. -/
theorem typescript_clients_text {request : Request} {s : Service}
    (hservice : request.services = [s]) {transport : Transport} {name : String}
    (hname : (name, transport.backend) ∈ typescriptBackends) :
    ((∃ files, (Generator.standard .builtin).generate name request = .ok files) ↔
      s.name ≠ "helper") ∧
    ∀ files, (Generator.standard .builtin).generate name request = .ok files →
      files.get? (s.name ++ ".ts") = some (transport.clientText s (s.methods.map s.call)) ∧
      (s.IsPlain → transport.calls (transport.clientText s (s.methods.map s.call)) =
        s.methods.map s.call ∧
        ∀ other : Transport, other.calls (other.clientText s (s.methods.map s.call)) =
          transport.calls (transport.clientText s (s.methods.map s.call))) := by
  refine ⟨exists_files_typescript_iff hname hservice, fun files hfiles => ?_⟩
  refine ⟨get?_client_of_generate hservice hname hfiles, fun hplain => ?_⟩
  have hcalls (other : Transport) := other.calls_clientText hplain
  exact ⟨hcalls transport, fun other => (hcalls other).trans (hcalls transport).symm⟩

/-- Orders are looked up, placed and dropped.  Only looking one up has an error of its own. -/
def orderDesk : Service :=
  ⟨"Orders", [
    ⟨"find", "Query", "Order", SortedMap.ofList [("service_method", "GET"), ("error", "Missing")]⟩,
    ⟨"place", "Order", "Receipt", SortedMap.empty⟩,
    ⟨"drop", "Query", "Receipt", SortedMap.ofList [("service_method", "DELETE")]⟩],
    SortedMap.ofList [("common_error", "Fault")]⟩

theorem typescript_clients_text_orders :
    let request : Request := { Request.empty with services := [orderDesk] }
    request.services = [orderDesk] ∧ orderDesk.IsPlain ∧
    ("ts", Transport.axios.backend) ∈ typescriptBackends ∧
    ("ts-fetch", Transport.fetch.backend) ∈ typescriptBackends ∧
    ∃ axios fetch,
      (∃ files, (Generator.standard .builtin).generate "ts" request = .ok files ∧
        files.get? "Orders.ts" = some axios) ∧
      (∃ files, (Generator.standard .builtin).generate "ts-fetch" request = .ok files ∧
        files.get? "Orders.ts" = some fetch) ∧
      Transport.axios.calls axios = [
        ⟨"find", "Query", "Order", some "Missing", "GET", true⟩,
        ⟨"place", "Order", "Receipt", some "Fault", "POST", false⟩,
        ⟨"drop", "Query", "Receipt", some "Fault", "DELETE", false⟩] ∧
      Transport.fetch.calls fetch = Transport.axios.calls axios := by
  intro request
  have hservice : request.services = [orderDesk] := rfl
  have hplain : orderDesk.IsPlain := by decide +kernel
  have haxios : ("ts", Transport.axios.backend) ∈ typescriptBackends := List.mem_cons_self
  have hfetch : ("ts-fetch", Transport.fetch.backend) ∈ typescriptBackends := by decide
  obtain ⟨hruns, htext⟩ := typescript_clients_text hservice haxios
  obtain ⟨hruns', htext'⟩ := typescript_clients_text hservice hfetch
  obtain ⟨files, hfiles⟩ := hruns.2 (by decide)
  obtain ⟨files', hfiles'⟩ := hruns'.2 (by decide)
  obtain ⟨hclient, hcalls⟩ := htext files hfiles
  obtain ⟨hclient', -⟩ := htext' files' hfiles'
  obtain ⟨hread, halike⟩ := hcalls hplain
  refine ⟨hservice, hplain, haxios, hfetch, _, _, ⟨files, hfiles, hclient⟩, ⟨files', hfiles',
    hclient'⟩, ?_, halike .fetch⟩
  rw [hread]
  decide

end ApiStubs
