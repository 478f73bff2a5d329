import ApiStubs.Proofs.Schema.Qualification
import ApiStubs.Proofs.Text.Lines
import ApiStubs.Proofs.Verbs

/-!
# The Go files, line by line

The lines of the file of types and of the server follow from the description, before anything is
flattened.  Both files open with one package.  The line of a method in the interface, its handler
and its routes are written in three places and agree: a method with an error type has a second
result and a handler that looks at it, and every method has a route.
-/

namespace ApiStubs

/-! ## The package -/

/-- The text after the last dot of a package, which is the whole package if there is none. -/
def Package.IsLast (package last : String) : Prop :=
  '.' ∉ last.toList ∧ (package = last ∨ ∃ before, package = before ++ "." ++ last)

theorem Package.isLast_lastSegment (package : String) : IsLast package (lastSegment package) := by
  obtain ⟨last, hlast, hdot, hpackage⟩ := Text.exists_getLast?_pieces '.' package.toList
  have hsegment : lastSegment package = String.ofList last := by
    rw [lastSegment, Text.segments, List.getLast?_map, hlast, Option.map_some, Option.getD_some]
  rw [hsegment]
  refine ⟨by rwa [String.toList_ofList], ?_⟩
  rcases hpackage with hwhole | ⟨before, hbefore⟩
  · exact .inl (String.toList_inj.1 (by rw [hwhole, String.toList_ofList]))
  · refine .inr ⟨String.ofList before, String.toList_inj.1 ?_⟩
    simp [hbefore]

theorem Package.lastSegment_of_isLast {package last : String} (h : IsLast package last) :
    lastSegment package = last := by
  obtain ⟨hdot, rfl | ⟨before, rfl⟩⟩ := h
  · simp [lastSegment, Text.segments, Text.pieces_eq_singleton hdot]
  · have hlist : (before ++ "." ++ last).toList = before.toList ++ '.' :: last.toList := by simp
    simp [lastSegment, Text.segments, hlist, Text.pieces_append, Text.pieces_eq_singleton hdot]

/-! ## Lines from the description -/

/-- The error type of a method, if it has one. -/
def Method.error? (m : Method) : Option String :=
  if m.errorType = "" then none else some m.errorType

/-- The verbs under which a path is bound, in the order in which they are written. -/
def Method.boundVerbList (m : Method) : List BoundVerb :=
  [BoundVerb.get, .post].filter (· ∈ m.boundVerbs)

namespace Go

/-- The lines of both files up to the package. -/
def packageLines (package : String) : List String := [
  "// Code generated by protoapi; DO NOT EDIT.",
  "",
  "package " ++ package]

/-- The line of a constant of an enumeration. -/
def constantRow (e : Enumeration) (v : EnumValue) : String :=
  Text.concat ["\t", v.name, " ", e.name, " = ", Text.decimal v.value.toInt]

/-- The line that gives a constant its name as a text. -/
def labelRow (v : EnumValue) : String := Text.concat ["\t\t", v.name, ": \"", v.name, "\","]

/-- The type of an enumeration, its constants and their names. -/
def enumLines (e : Enumeration) : List String :=
  ["",
    "type " ++ e.name ++ " int",
    "",
    "const ("] ++
  e.values.map (constantRow e) ++
  [")",
    "",
    "func (code " ++ e.name ++ ") String() string \x7b",
    "\tnames := map[" ++ e.name ++ "]string\x7b"] ++
  e.values.map labelRow ++
  ["\t\x7d",
    "",
    "\treturn names[code]",
    "\x7d"]

/-- The line of a field: its name, its type and its key. -/
def memberRow (request : Request) (m : Message) (f : Field) : String :=
  Text.concat [
    "\t", Text.capitalize f.name, " ",
    if f.label = .repeated then "[]" else "",
    if request.IsPointedTo (Package.strip f.dataType m.package) then "*" else "",
    m.typeIn .go f,
    " `json:\"", f.key, "\" form:\"", f.key, "\" query:\"", f.key, "\"`"]

/-- The struct of a message. -/
def structLines (request : Request) (m : Message) : List String :=
  ["",
    "// " ++ m.name,
    "type " ++ m.name ++ " struct \x7b"] ++
  m.fields.map (memberRow request m) ++
  ["\x7d"]

/-- The file of types behind the package. -/
def typesLines (request : Request) : List String :=
  request.enums.flatMap enumLines ++ request.messages.flatMap (structLines request)

/-- The line of a method in the interface, with a second result for its error. -/
def signatureRow (m : Method) : String :=
  Text.concat [
    "\t", m.title, "(*", m.inputType, ") (*", m.outputType,
    Text.concat (m.error?.toList.map fun error => ", *" ++ error),
    ")"]

/-- How a handler calls the method.  The error of the call is looked at if there can be one. -/
def callLines (m : Method) : List String :=
  match m.error? with
  | none => ["\t\tout := srv." ++ m.title ++ "(in)"]
  | some _ => [
      "\t\tout, callErr := srv." ++ m.title ++ "(in)",
      "\t\tif callErr != nil \x7b",
      "\t\t\tresp := ResponseInternal\x7b",
      "\t\t\t\tError: &ErrorInternal\x7bDetails: callErr\x7d,",
      "\t\t\t\x7d",
      "\t\t\treturn c.JSON(http.StatusOK, resp)",
      "\t\t\x7d"]

/-- The handler of a method. -/
def handlerLines (service : String) (m : Method) : List String :=
  ["",
    "func _" ++ m.name ++ "_Handler(srv " ++ service ++ ") echo.HandlerFunc \x7b",
    "\treturn func(c echo.Context) (err error) \x7b",
    "\t\tin := new(" ++ m.inputType ++ ")",
    "",
    "\t\tif err = c.Bind(in); err != nil \x7b",
    "\t\t\tresp := ResponseInternal\x7b",
    "\t\t\t\tError: &ErrorInternal\x7bCode: 1000, Message: err.Error()\x7d,",
    "\t\t\t\x7d",
    "\t\t\treturn c.JSON(http.StatusBadRequest, resp)",
    "\t\t\x7d",
    ""] ++
  callLines m ++
  ["",
    "\t\tresp := ResponseInternal\x7b",
    "\t\t\tResponse: out,",
    "\t\t\x7d",
    "\t\treturn c.JSON(http.StatusOK, resp)",
    "\t\x7d",
    "\x7d"]

/-- The route of a method under a verb. -/
def routeRow (service : String) (m : Method) (verb : BoundVerb) : String :=
  Text.concat ["\te.", verb.name, "(\"/", service, ".", m.name, "\", _", m.name, "_Handler(srv))"]

/-- The routes of a method. -/
def routeRows (service : String) (m : Method) : List String :=
  m.boundVerbList.map (routeRow service m)

/-- The types of a response. -/
def envelopeLines : List String := [
  "\x7d",
  "",
  "type ErrorInternal struct \x7b",
  "\tCode    int32       `json:\"code\"`",
  "\tMessage string      `json:\"message\"`",
  "\tDetails interface\x7b\x7d `json:\"details\"`",
  "\x7d",
  "",
  "type ResponseInternal struct \x7b",
  "\tResponse interface\x7b\x7d    `json:\"response\"`",
  "\tError    *ErrorInternal `json:\"error\"`",
  "\x7d"]

/-- The server behind the package: the interface, the handlers and the routes. -/
def serverLines (s : Service) : List String :=
  ["",
    "import (",
    "\t\"net/http\"",
    "",
    "\t\"github.com/labstack/echo\"",
    ")",
    "",
    "// " ++ s.name ++ " is the interface implemented by the service controllers",
    "type " ++ s.name ++ " interface \x7b"] ++
  s.methods.map signatureRow ++
  envelopeLines ++
  s.methods.flatMap (handlerLines s.name) ++
  ["",
    "// Register" ++ s.name ++ " binds the service routes",
    "func Register" ++ s.name ++ "(e *echo.Echo, srv " ++ s.name ++ ") \x7b"] ++
  s.methods.flatMap (routeRows s.name) ++
  ["\x7d"]

/-! ## What the templates write -/

open Asset

theorem constantLine_eq (e : Enumeration) (v : EnumValue) :
    constantLine e v = constantRow e v ++ "\n" := by
  simp only [constantLine, constantRow, Text.concat, String.append_assoc, String.append_empty]

theorem labelLine_eq (v : EnumValue) : labelLine v = labelRow v ++ "\n" := by
  simp only [labelLine, labelRow, Text.concat, String.append_assoc, String.append_empty,
    String.reduceAppend]

theorem enumBlock_eq (e : Enumeration) : enumBlock e = linesText (enumLines e) := by
  have hconstants : constantLine e = fun v => constantRow e v ++ "\n" := funext (constantLine_eq e)
  have hlabels : labelLine = fun v => labelRow v ++ "\n" := funext labelLine_eq
  rw [enumBlock, enumLines, hconstants, hlabels]
  simp only [linesText_append, linesText_cons, linesText_nil, linesText_map, Text.concat,
    String.append_assoc, String.append_empty, String.empty_append]
  simp only [Text.append_literals, String.reduceEq, not_false_eq_true, String.reduceAppend]

theorem fieldLine_localField (request : Request) (m : Message) (f : Field) :
    fieldLine (request.enums.map Enumeration.name) (m.localField f) =
      memberRow request m f ++ "\n" := by
  have hpointer :
      (if isPlainType (request.enums.map Enumeration.name) (m.localField f).dataType = false
        then "*" else "") =
      if request.IsPointedTo (Package.strip f.dataType m.package) then "*" else "" :=
    if_congr (request.isPointedTo_iff _).symm rfl rfl
  rw [fieldLine, hpointer, memberRow]
  simp only [Message.localField, Message.typeIn, Text.concat, String.append_assoc,
    String.append_empty, String.reduceAppend]
  rfl

theorem messageBlock_flatten (request : Request) (m : Message) :
    messageBlock (request.enums.map Enumeration.name) m.flatten.value =
      linesText (structLines request m) := by
  have hfields : m.flatten.value.fields.map (fieldLine (request.enums.map Enumeration.name)) =
      m.fields.map fun f => memberRow request m f ++ "\n" := by
    rw [Message.fields_flatten, List.map_map]
    exact List.map_congr_left fun f _ => fieldLine_localField request m f
  rw [messageBlock, structLines, hfields, Message.name_flatten]
  simp only [linesText_append, linesText_cons, linesText_nil, linesText_map, Text.concat,
    String.append_assoc, String.append_empty, String.empty_append]
  simp only [Text.append_literals, String.reduceEq, not_false_eq_true, String.reduceAppend]

/-- The fixed texts of the files as lines. -/
theorem texts_eq :
    heading = "// Code generated by protoapi; DO NOT EDIT." ++
      ("\n" ++ ("" ++ ("\n" ++ "package "))) ∧
    serverImports = "\n" ++
      (linesText ["", "import (", "\t\"net/http\"", "", "\t\"github.com/labstack/echo\"",
      ")", ""] ++ "// ") ∧
    envelope = linesText envelopeLines ∧
    handlerBinding = ")" ++ ("\n" ++ linesText ["",
      "\t\tif err = c.Bind(in); err != nil \x7b",
      "\t\t\tresp := ResponseInternal\x7b",
      "\t\t\t\tError: &ErrorInternal\x7bCode: 1000, Message: err.Error()\x7d,",
      "\t\t\t\x7d",
      "\t\t\treturn c.JSON(http.StatusBadRequest, resp)",
      "\t\t\x7d",
      ""]) ∧
    handlerFailure = "(in)" ++ ("\n" ++ linesText [
      "\t\tif callErr != nil \x7b",
      "\t\t\tresp := ResponseInternal\x7b",
      "\t\t\t\tError: &ErrorInternal\x7bDetails: callErr\x7d,",
      "\t\t\t\x7d",
      "\t\t\treturn c.JSON(http.StatusOK, resp)",
      "\t\t\x7d"]) ∧
    handlerEnd = linesText ["",
      "\t\tresp := ResponseInternal\x7b",
      "\t\t\tResponse: out,",
      "\t\t\x7d",
      "\t\treturn c.JSON(http.StatusOK, resp)",
      "\t\x7d",
      "\x7d"] := by
  decide +kernel

theorem typesText_eq (package : String) (request : Request) :
    typesText package request.enums (flattenAll request.messages) =
      linesText (packageLines package ++ typesLines request) := by
  obtain ⟨hheading, -⟩ := texts_eq
  have henums : request.enums.map enumBlock = request.enums.map fun e => linesText (enumLines e) :=
    List.map_congr_left fun e _ => enumBlock_eq e
  have hmessages : (flattenAll request.messages).map
      (messageBlock (request.enums.map Enumeration.name)) =
      request.messages.map fun m => linesText (structLines request m) := by
    rw [flattenAll, List.map_map]
    exact List.map_congr_left fun m _ => messageBlock_flatten request m
  rw [typesText, packageLines, typesLines, henums, hmessages, ← linesText_flatMap,
    ← linesText_flatMap, hheading]
  simp only [linesText_append, linesText_cons, linesText_nil, Text.concat, String.append_assoc,
    String.append_empty]

theorem signatureLine_eq (m : Method) : signatureLine m = signatureRow m ++ "\n" := by
  rw [signatureLine, signatureRow, Method.error?]
  by_cases herror : m.errorType = ""
  · simp only [herror, if_true, Option.toList_none, List.map_nil, Text.concat, String.append_assoc,
      String.append_empty, String.reduceAppend]
  · simp only [herror, if_false, Option.toList_some, List.map_cons, List.map_nil, Text.concat,
      String.append_assoc, String.append_empty, String.reduceAppend]

theorem handlerBlock_eq (service : String) (m : Method) :
    handlerBlock service m = linesText (handlerLines service m) := by
  obtain ⟨-, -, -, hbinding, hfailure, hend⟩ := texts_eq
  have hcall : (if m.errorType = "" then Text.concat ["\t\tout := srv.", m.title, "(in)\n"]
      else Text.concat ["\t\tout, callErr := srv.", m.title, handlerFailure]) =
        linesText (callLines m) := by
    rw [callLines, Method.error?, hfailure]
    by_cases herror : m.errorType = ""
    · simp only [herror, if_true, linesText_cons, linesText_nil, Text.concat, String.append_assoc,
        String.append_empty, String.reduceAppend]
    · simp only [herror, if_false, linesText_cons, linesText_nil, Text.concat, String.append_assoc,
        String.append_empty]
  rw [handlerBlock, handlerLines, hcall, hbinding, hend]
  simp only [linesText_append, linesText_cons, linesText_nil, Text.concat, String.append_assoc,
    String.append_empty, String.empty_append]
  simp only [Text.append_literals, String.reduceEq, not_false_eq_true, String.reduceAppend]

theorem routeLine_eq (verb : BoundVerb) (service : String) (m : Method) :
    routeLine verb.name service m = routeRow service m verb ++ "\n" := by
  simp only [routeLine, routeRow, Method.path, Text.concat, String.append_assoc,
    String.append_empty]
  simp only [Text.append_literals, String.reduceEq, not_false_eq_true, String.reduceAppend]

theorem routeLines_eq_lines (service : String) (m : Method) :
    routeLines service m = linesText (routeRows service m) := by
  have hget : routeLine "GET" service m = routeRow service m .get ++ "\n" :=
    routeLine_eq .get service m
  have hpost : routeLine "POST" service m = routeRow service m .post ++ "\n" :=
    routeLine_eq .post service m
  rw [routeLines_eq, boundLines, routeRows, linesText_map, Method.boundVerbList, hget, hpost]
  by_cases hfirst : BoundVerb.get ∈ m.boundVerbs <;>
    by_cases hsecond : BoundVerb.post ∈ m.boundVerbs <;>
    simp [hfirst, hsecond, Text.concat]

theorem serverText_eq (package : String) (s : Service) :
    serverText package s = linesText (packageLines package ++ serverLines s) := by
  obtain ⟨hheading, himports, henvelope, -⟩ := texts_eq
  have hsignatures : s.methods.map signatureLine = s.methods.map fun m => signatureRow m ++ "\n" :=
    List.map_congr_left fun m _ => signatureLine_eq m
  have hhandlers : s.methods.map (handlerBlock s.name) =
      s.methods.map fun m => linesText (handlerLines s.name m) :=
    List.map_congr_left fun m _ => handlerBlock_eq s.name m
  have hroutes : s.methods.map (routeLines s.name) =
      s.methods.map fun m => linesText (routeRows s.name m) :=
    List.map_congr_left fun m _ => routeLines_eq_lines s.name m
  rw [serverText, serverFrame, packageLines, serverLines, hsignatures, hhandlers, hroutes,
    ← linesText_map, ← linesText_flatMap, ← linesText_flatMap, hheading, himports, henvelope]
  simp only [linesText_append, linesText_cons, linesText_nil, Text.concat, String.append_assoc,
    String.append_empty, String.empty_append]
  simp only [Text.append_literals, String.reduceEq, not_false_eq_true, String.reduceAppend]

/-! ## One method in three places -/

theorem signatureRow_eq_iff (m : Method) :
    signatureRow m =
      Text.concat ["\t", m.title, "(*", m.inputType, ") (*", m.outputType, ", *",
        m.errorType, ")"] ↔
        m.errorType ≠ "" := by
  rw [signatureRow, Method.error?]
  by_cases herror : m.errorType = ""
  · simp [herror, Text.concat]
  · simp [herror, Text.concat, String.append_assoc]

theorem mem_handlerLines_iff (service : String) (m : Method) :
    "\t\tif callErr != nil \x7b" ∈ handlerLines service m ↔ m.errorType ≠ "" := by
  have hfunction (rest : String) : "\t\tif callErr != nil \x7b" ≠ "func _" ++ rest := by
    simp [← String.toList_inj]
  have hinput (rest : String) : "\t\tif callErr != nil \x7b" ≠ "\t\tin := new(" ++ rest := by
    simp [← String.toList_inj]
  have hcall (rest : String) : "\t\tif callErr != nil \x7b" ≠ "\t\tout := srv." ++ rest := by
    simp [← String.toList_inj]
  rw [handlerLines, callLines, Method.error?]
  by_cases herror : m.errorType = ""
  · simp [herror, hfunction, hinput, hcall, String.append_assoc]
  · simp [herror]

theorem routeRow_injective (service : String) (m : Method) :
    Function.Injective (routeRow service m) := by
  intro verb other h
  cases verb <;> cases other <;> simp_all [routeRow, Text.concat, BoundVerb.name]

theorem routeRow_mem_iff (service : String) (m : Method) (verb : BoundVerb) :
    routeRow service m verb ∈ routeRows service m ↔ verb ∈ m.boundVerbs := by
  rw [routeRows, List.mem_map_of_injective (routeRow_injective service m)]
  cases verb <;> simp [Method.boundVerbList]

/-- A method has a route, for its verb cannot rule out both. -/
theorem length_routeRows (service : String) (m : Method) :
    1 ≤ (routeRows service m).length ∧ (routeRows service m).length ≤ 2 := by
  rw [routeRows, List.length_map]
  refine ⟨List.length_pos_iff_exists_mem.2 ?_, List.length_filter_le ..⟩
  by_cases hpost : m.verb = "POST"
  · have hbound : .post ∈ m.boundVerbs := m.post_mem_boundVerbs.2 (by simp [hpost])
    exact ⟨.post, List.mem_filter.2 ⟨by simp, decide_eq_true hbound⟩⟩
  · exact ⟨.get, List.mem_filter.2 ⟨by simp, decide_eq_true (m.get_mem_boundVerbs.2 hpost)⟩⟩

end Go

/-! ## A run -/

section Runs

variable {request : Request} {service : Option Service}
  (hservice : request.services = service.toList)

include hservice

theorem plannedNames_echo : plannedNames request service .echo =
    request.services.map (fun s => s.name ++ ".go") ++
      [request.baseNameOf service ++ "Objs.go"] := by
  rw [hservice]
  cases service <;> rfl

variable {files : OutputFiles}
  (hfiles : (Generator.standard .builtin).generate "echo" request = .ok files)

include hfiles

theorem get?_goTypes_of_generate : files.get? (request.baseNameOf service ++ "Objs.go") =
    some (Asset.linesText (
      Go.packageLines (Backend.goPackage request.packageName (request.baseNameOf service)) ++
        Go.typesLines request)) := by
  rw [generate_builtin_of_found (find_standard echo_mem_standardBackends) hservice] at hfiles
  rw [← Go.typesText_eq]
  exact OutputFiles.get?_addAll hfiles (List.mem_append_right _ List.mem_cons_self)

theorem get?_goServer_of_generate {s : Service} (hs : s ∈ request.services) :
    files.get? (s.name ++ ".go") =
    some (Asset.linesText (
      Go.packageLines (Backend.goPackage request.packageName (request.baseNameOf service)) ++
        Go.serverLines s)) := by
  rw [generate_builtin_of_found (find_standard echo_mem_standardBackends) hservice] at hfiles
  rw [hservice, Option.mem_toList] at hs
  subst hs
  rw [← Go.serverText_eq]
  exact OutputFiles.get?_addAll hfiles List.mem_cons_self

end Runs

/-- A run for Go always ends with the file of types and, for a service, the server.  Both open with
the same package, which is the last segment of the package of the description or else the name of
the files in lower case.  The places where a method shows agree on its error type and on its
verb. -/
theorem echo_files_text {request : Request} (hservices : request.services.length ≤ 1) :
    ∃ files package, (Generator.standard .builtin).generate "echo" request = .ok files ∧
      files.names.Perm (request.services.map (fun s => s.name ++ ".go") ++
        [request.baseNameOf request.services.head? ++ "Objs.go"]) ∧
      (∃ last, Package.IsLast request.packageName last ∧
        package = if last = "" then Text.lower (request.baseNameOf request.services.head?)
          else last) ∧
      files.get? (request.baseNameOf request.services.head? ++ "Objs.go") =
        some (Asset.linesText (Go.packageLines package ++ Go.typesLines request)) ∧
      ∀ s ∈ request.services,
        files.get? (s.name ++ ".go") =
          some (Asset.linesText (Go.packageLines package ++ Go.serverLines s)) ∧
        ∀ m ∈ s.methods,
          (Go.signatureRow m =
            Text.concat ["\t", m.title, "(*", m.inputType, ") (*", m.outputType, ", *",
              m.errorType, ")"] ↔
              m.errorType ≠ "") ∧
          ("\t\tif callErr != nil \x7b" ∈ Go.handlerLines s.name m ↔ m.errorType ≠ "") ∧
          (Go.routeRow s.name m .get ∈ Go.routeRows s.name m ↔ m.verb ≠ "POST") ∧
          (Go.routeRow s.name m .post ∈ Go.routeRows s.name m ↔ m.verb ≠ "GET") ∧
          1 ≤ (Go.routeRows s.name m).length ∧ (Go.routeRows s.name m).length ≤ 2 := by
  have hservice := services_eq_toList_head? hservices
  obtain ⟨files, hfiles, hnames⟩ :=
    generate_of_nodup echo_mem_standardBackends hservice (nodup_echo ..)
  rw [plannedNames_echo hservice] at hnames
  refine ⟨files, Backend.goPackage request.packageName (request.baseNameOf request.services.head?),
    hfiles, hnames, ⟨_, Package.isLast_lastSegment _, rfl⟩,
    get?_goTypes_of_generate hservice hfiles, fun s hs => ?_⟩
  refine ⟨get?_goServer_of_generate hservice hfiles hs, fun m _ => ?_⟩
  rw [Go.routeRow_mem_iff, Go.routeRow_mem_iff]
  exact ⟨Go.signatureRow_eq_iff m, Go.mem_handlerLines_iff s.name m, m.get_mem_boundVerbs,
    m.post_mem_boundVerbs, Go.length_routeRows s.name m⟩

/-- Orders with lines of their own, a state and an amount.  Looking one up can fail. -/
def orderBook : Request :=
  { Request.empty with
    packageName := "com.shop"
    services := [⟨"Orders", [
      ⟨"find", "Query", "Order",
        SortedMap.ofList [("service_method", "GET"), ("error", "Missing")]⟩,
      ⟨"place", "Order", "Receipt", SortedMap.empty⟩], SortedMap.empty⟩]
    messages := [
      ⟨"Order", [
        ⟨"lines", "order_lines", ".com.shop.Line", .repeated, "", SortedMap.empty⟩,
        Field.ofType "state" "com.shop.State",
        Field.ofType "amount" "int64"], .optional, "com.shop"⟩]
    enums := [⟨"State", [⟨"OPEN", 0⟩, ⟨"SENT", 4⟩]⟩] }

theorem echo_files_text_orders :
    orderBook.services.length ≤ 1 ∧
    ∃ files, (Generator.standard .builtin).generate "echo" orderBook = .ok files ∧
      files.get? "OrdersObjs.go" = some (Asset.linesText [
        "// Code generated by protoapi; DO NOT EDIT.",
        "",
        "package shop",
        "",
        "type State int",
        "",
        "const (",
        "\tOPEN State = 0",
        "\tSENT State = 4",
        ")",
        "",
        "func (code State) String() string \x7b",
        "\tnames := map[State]string\x7b",
        "\t\tOPEN: \"OPEN\",",
        "\t\tSENT: \"SENT\",",
        "\t\x7d",
        "",
        "\treturn names[code]",
        "\x7d",
        "",
        "// Order",
        "type Order struct \x7b",
        "\tLines []*Line `json:\"order_lines\" form:\"order_lines\" query:\"order_lines\"`",
        "\tState State `json:\"state\" form:\"state\" query:\"state\"`",
        "\tAmount int64 `json:\"amount\" form:\"amount\" query:\"amount\"`",
        "\x7d"]) ∧
      ∀ s ∈ orderBook.services,
        files.get? "Orders.go" =
          some (Asset.linesText (Go.packageLines "shop" ++ Go.serverLines s)) ∧
        s.methods.map Go.signatureRow =
          ["\tFind(*Query) (*Order, *Missing)", "\tPlace(*Order) (*Receipt)"] ∧
        s.methods.flatMap (Go.routeRows s.name) = [
          "\te.GET(\"/Orders.find\", _find_Handler(srv))",
          "\te.POST(\"/Orders.place\", _place_Handler(srv))"] := by
  have hservices : orderBook.services.length ≤ 1 := by decide
  obtain ⟨files, package, hrun, -, ⟨last, hlast, hpackage⟩, htypes, hserver⟩ :=
    echo_files_text hservices
  have hshop : package = "shop" := by
    rw [hpackage, ← Package.lastSegment_of_isLast hlast]
    decide +kernel
  subst hshop
  refine ⟨hservices, files, hrun, htypes.trans (congrArg some ?_), fun s hs => ?_⟩
  · decide +kernel
  · have htext := (hserver s hs).1
    obtain rfl := List.mem_singleton.1 hs
    exact ⟨htext, by decide +kernel⟩

end ApiStubs
