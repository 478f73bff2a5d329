import ApiStubs.Proofs.Builtin.View

/-!
# The text of the Java files

What the three Java templates write for an enumeration, a service and a message.
-/

namespace ApiStubs.Java

open Template Template.Sight

/-- The line that names the package, if there is one. -/
def packageLine (package : String) : String :=
  if package = "" then "" else Text.concat ["\npackage ", package, ";\n"]

variable {sight : Sight} {package : String}

theorem prints_package (h : sight.names "package" = some (.text package)) :
    sight.Prints Tree.packageClause (packageLine package) :=
  prints_when_not (decides_text (gives_name h))
    (printsAll_concat (by simp [prints_name, h]))

/-! ## Enumerations -/

/-- The line of a constant, which ends the list if it is the last one. -/
def constantLine (last : Bool) (v : EnumValue) : String :=
  Text.concat [
    "    ", v.name, "(", Text.decimal v.value.toInt, ")", if last = true then ";" else ",", "\n"]

/-- The file of an enumeration.  A list without constants is ended on a line of its own. -/
def enumText (package : String) (e : Enumeration) : String :=
  Text.concat [
    heading, packageLine package, enumImports, e.name, " \x7b\n",
    if e.values = [] then "    ;\n" else "",
    Text.concat (e.values.mapIdx fun i v => constantLine (i + 1 == e.values.length) v),
    "\n    private final int value;\n\n    ", e.name, enumEnd]

/-- Whether a round is the last one. -/
theorem gives_last {home i n : Nat} {previous next : Value}
    (h : sight.names "loop" = some (.round home i (some n) previous next)) :
    sight.Gives (.dot "loop" "last") (.bool (i + 1 == n)) :=
  gives_dot h (by simp [Value.member, Value.entries?, Value.roundEntries, findEntry]) rfl

theorem printsAll_constant {home i n : Nat} {previous next : Value} {v : EnumValue}
    (hv : sight.names "value" = some v.view)
    (hloop : sight.names "loop" = some (.round home i (some n) previous next)) :
    sight.PrintsAll Tree.constant (constantLine (i + 1 == n) v) := by
  have hend := prints_branch (Decides.of_bool (gives_last hloop) Iff.rfl)
    (printsAll_single (prints_say ";")) (printsAll_single (prints_say ","))
  exact printsAll_concat (by
    simpa [Tree.constant, prints_put, hv, EnumValue.view, findEntry] using hend)

theorem printsAll_enumeration {e : Enumeration} (hroom : 0 < sight.room)
    (hpackage : sight.names "package" = some (.text package))
    (he : sight.names "enum_data" = some e.view) :
    sight.PrintsAll Tree.enumeration (enumText package e) := by
  have hvalues : sight.Gives (.dot "enum_data" "fields") (.list (e.values.map EnumValue.view)) :=
    gives_dot he (by simp [Enumeration.view, findEntry]) rfl
  have hempty : sight.Decides (.not (.dot "enum_data" "fields")) (e.values = []) :=
    (decides_list hvalues).not.of_iff (by simp)
  have hconstants : sight.Prints (.forEach "value" (.dot "enum_data" "fields") Tree.constant)
      (Text.concat (e.values.mapIdx fun i v => constantLine (i + 1 == e.values.length) v)) :=
    prints_rounds hroom hvalues EnumValue.holdsRound_view fun _ _ _ _ _ _ =>
      PrintsAll.writes (printsAll_constant (names_enter_self ..) (names_enter_loop (by decide) ..))
  exact printsAll_concat (by
    simp [Tree.enumeration, prints_put, prints_package hpackage, hconstants, he, Enumeration.view,
      findEntry, prints_when hempty (printsAll_single (prints_say "    ;\n"))])

theorem renders_enumeration (package : String) (e : Enumeration) :
    Renders .java [("enum_data", e.view), ("package", .text package)] Tree.enumeration
      (enumText package e) :=
  renders_of_writes (PrintsAll.writes (printsAll_enumeration (by simp)
    (by simp [findEntry]) (by simp [findEntry])))

/-! ## Controllers -/

/-- The method that a controller maps to a path under a verb. -/
def mappedMethod (mapping input service : String) (m : Method) : String :=
  Text.concat [
    "\n    @" ++ mapping ++ "(\"", m.path service, "\")\n    @ResponseBody\n    public ",
    m.outputType, " ", m.name, input, m.inputType, " in) \x7b\n        return ", m.name,
    "(in);\n    \x7d\n"]

/-- The methods that a controller has for a method: one under each verb unless it asks for one of
them, and the one to implement. -/
def methodBlock (service : String) (m : Method) : String :=
  Text.concat [
    if m.verb = "GET" then "" else mappedMethod "PostMapping" "Post(@RequestBody " service m,
    if m.verb = "POST" then "" else mappedMethod "GetMapping" "Get(" service m,
    "\n    abstract ", m.outputType, " ", m.name, "(", m.inputType, " in);\n"]

/-- The file of a controller, with what it has for the methods. -/
def controllerFrame (package : String) (s : Service) (methods : String) : String :=
  Text.concat [heading, packageLine package, controllerImports, s.name, "Base \x7b\n",
    methods, "\x7d\n"]

/-- The file of a controller. -/
def controllerText (package : String) (s : Service) : String :=
  controllerFrame package s (Text.concat (s.methods.map (methodBlock s.name)))

theorem printsAll_mapping {service : String} {m : Method}
    (h : sight.names "method" = some (m.routeView service)) :
    sight.PrintsAll Tree.mapping (methodBlock service m) := by
  have hmapped (mapping input : String) :
      sight.PrintsAll (Tree.mapped mapping input) (mappedMethod mapping input service m) :=
    printsAll_concat (by simp [Tree.mapped, prints_put, h, Method.routeView, findEntry])
  exact printsAll_concat (by
    simp [Tree.mapping, prints_put, h, Method.routeView, findEntry,
      prints_when_not (decides_verb_ne h "GET") (hmapped "PostMapping" "Post(@RequestBody "),
      prints_when_not (decides_verb_ne h "POST") (hmapped "GetMapping" "Get(")])

theorem printsAll_controller {s : Service} (hroom : 0 < sight.room)
    (hpackage : sight.names "package" = some (.text package))
    (hname : sight.names "name" = some (.text s.name))
    (hmethods : sight.names "methods" = some s.routes) :
    sight.PrintsAll Tree.controller (controllerText package s) := by
  have hmappings : sight.Prints (.forEach "method" (.name "methods") Tree.mapping)
      (Text.concat (s.methods.map (methodBlock s.name))) :=
    prints_forEach hroom (gives_name hmethods) (Method.holdsRound_routeView s.name) fun _ _ _ =>
      PrintsAll.writes (printsAll_mapping (names_enter_self ..))
  exact printsAll_concat (by
    simp [Tree.controller, prints_name, prints_package hpackage, hname, hmappings])

theorem renders_controller (package : String) (s : Service) (summary : Value) :
    Renders .java [
      ("gen", summary), ("methods", s.routes), ("name", .text s.name), ("package", .text package)]
      Tree.controller (controllerText package s) :=
  renders_of_writes (PrintsAll.writes (printsAll_controller (by simp)
    (by simp [findEntry]) (by simp [findEntry]) (by simp [findEntry])))

/-! ## Messages -/

/-- The type of a field: a list of its type if it is repeated. -/
def fieldType (f : Field) : String :=
  if f.label = .repeated then Text.concat ["List<", Language.java.nativeType f.dataType, ">"]
  else Language.java.nativeType f.dataType

/-- The line that declares a field. -/
def declarationLine (f : Field) : String :=
  Text.concat ["    private final ", fieldType f, " ", f.name, ";\n"]

/-- The parameter of the constructor for a field; a comma follows all but the last one. -/
def parameterLine (last : Bool) (f : Field) : String :=
  Text.concat [
    "            @JsonProperty(\"", f.key, "\") ", fieldType f, " ", f.name,
    if last = true then "" else ",", "\n"]

/-- The line that sets a field. -/
def assignmentLine (f : Field) :
    String := Text.concat ["        this.", f.name, " = ", f.name, ";\n"]

/-- The method that gives out a field. -/
def getterBlock (f : Field) : String :=
  Text.concat [
    "\n    public ", fieldType f, " get", Text.capitalize f.name, "() \x7b\n        return ",
    f.name, ";\n    \x7d\n"]

/-- The file of a message. -/
def messageText (package : String) (m : Message) : String :=
  Text.concat [
    heading, packageLine package, messageImports,
    if m.hasList = true then "\nimport java.util.List;\n" else "",
    "\npublic class ", m.name, " \x7b\n",
    Text.concat (m.fields.map declarationLine),
    "\n    @JsonCreator\n    public ", m.name, "(\n",
    Text.concat (m.fields.mapIdx fun i f => parameterLine (i + 1 == m.fields.length) f),
    "    ) \x7b\n",
    Text.concat (m.fields.map assignmentLine),
    "    \x7d\n",
    Text.concat (m.fields.map getterBlock),
    "\x7d\n"]

/-- The macro that writes the type of a field. -/
def typeRoutine : Routine := ⟨"java_type", [⟨"field", none⟩], Tree.typeBody, none⟩

/-- What the macro answers for a field. -/
def typeAnswers (r : Routine) (arguments : List Value) (v : Value) : Prop :=
  ∃ f : Field, r = typeRoutine ∧ arguments = [f.view] ∧ v = .text (fieldType f)

variable {f : Field}

theorem printsAll_typeBody (hlanguage : sight.language = .java)
    (hf : sight.names "field" = some f.view) : sight.PrintsAll Tree.typeBody (fieldType f) := by
  have htype := prints_nativeType hf
  rw [hlanguage] at htype
  have hlist : sight.PrintsAll
      [.say "List<", .print (.filter (.dot "field" "data_type") "target_type" []), .say ">"]
      (Text.concat ["List<", Language.java.nativeType f.dataType, ">"]) :=
    printsAll_concat (by simp [htype])
  exact printsAll_single (prints_branch (decides_repeatedField hf) hlist (printsAll_single htype))

theorem invokeMacro_typeRoutine {context : Names} ⦃name : String⦄ ⦃held : List String⦄
    ⦃fuel depth : Nat⦄ ⦃scope : Scope⦄ ⦃r : Routine⦄ ⦃arguments : List Value⦄ ⦃v : Value⦄
    (hdepth : depth + callDepth ≤ depthLimit) (h : typeAnswers r arguments v) :
    invokeMacro ⟨.java, name, held, context, 1⟩ (fuel + 1) depth scope r arguments = .ok v := by
  obtain ⟨f, rfl, rfl, rfl⟩ := h
  exact invokeMacro_eq f.holdsRound_view rfl (by decide +kernel)
    (PrintsAll.writes (printsAll_typeBody rfl (if_pos rfl))) fuel hdepth

/-- A sight in which fields have their types written by the macro. -/
structure SeesTypes (sight : Sight) : Prop where
  language : sight.language = .java
  routine : sight.names "java_type" = some (.routine typeRoutine)
  answers : sight.answers = typeAnswers
  room : callDepth ≤ sight.room

theorem SeesTypes.enter {name : String} {v round : Value} (h : SeesTypes sight)
    (hname : name ≠ "java_type") (hroom : callDepth < sight.room) :
    SeesTypes (sight.enter name v round) where
  language := h.language
  routine := by simpa [hname] using h.routine
  answers := h.answers
  room := Nat.le_sub_one_of_lt hroom

theorem prints_fieldType (h : SeesTypes sight) (hf : sight.names "field" = some f.view) :
    sight.Prints Tree.fieldType (fieldType f) := by
  have hanswer : sight.answers typeRoutine [f.view] (.text (fieldType f)) := by
    rw [h.answers]
    exact ⟨f, rfl, rfl, rfl⟩
  have hcall : sight.Gives (.call (.name "java_type") [.name "field"]) (.text (fieldType f)) :=
    gives_routine (by decide) h.routine (gives_name hf) hanswer h.room
  exact prints_print (by simp [restartArguments?]) hcall rfl

theorem printsAll_declaration (h : SeesTypes sight) (hf : sight.names "field" = some f.view) :
    sight.PrintsAll Tree.declaration (declarationLine f) :=
  printsAll_concat (by
    simp [Tree.declaration, prints_put, prints_fieldType h hf, hf, Field.view, findEntry])

theorem printsAll_parameter {home i n : Nat} {previous next : Value} (h : SeesTypes sight)
    (hf : sight.names "field" = some f.view)
    (hloop : sight.names "loop" = some (.round home i (some n) previous next)) :
    sight.PrintsAll Tree.parameter (parameterLine (i + 1 == n) f) := by
  have hcomma := prints_when_not (Decides.of_bool (gives_last hloop) Iff.rfl).not
    (printsAll_single (prints_say ","))
  exact printsAll_concat (by
    simpa [Tree.parameter, prints_put, prints_fieldType h hf, hf, Field.view, findEntry]
      using hcomma)

theorem printsAll_assignment (hf : sight.names "field" = some f.view) :
    sight.PrintsAll Tree.assignment (assignmentLine f) :=
  printsAll_concat (by simp [Tree.assignment, prints_put, hf, Field.view, findEntry])

theorem printsAll_getter (h : SeesTypes sight) (hf : sight.names "field" = some f.view) :
    sight.PrintsAll Tree.getter (getterBlock f) :=
  printsAll_concat (by
    simp [Tree.getter, prints_put, prints_fieldType h hf, prints_capitalName hf, hf, Field.view,
      findEntry])

/-- Once the macro is defined, the rest of the file follows. -/
theorem printsAll_message {m : Message} (h : SeesTypes sight) (hroom : callDepth < sight.room)
    (hpackage : sight.names "package" = some (.text package))
    (hlists : sight.names "uses_list" = some (.bool m.hasList))
    (hm : sight.names "message" = some m.view) :
    sight.PrintsAll Tree.message.tail (messageText package m) := by
  have hsome : 0 < sight.room := Nat.lt_trans (by decide) hroom
  have hfields : sight.Gives (.dot "message" "fields") (.list (m.fields.map Field.view)) :=
    gives_dot hm (by simp [Message.view, findEntry]) rfl
  have hdeclarations : sight.Prints (.forEach "field" (.dot "message" "fields") Tree.declaration)
      (Text.concat (m.fields.map declarationLine)) :=
    prints_forEach hsome hfields Field.holdsRound_view fun _ _ _ =>
      PrintsAll.writes (printsAll_declaration (h.enter (by decide) hroom) (names_enter_self ..))
  have hparameters : sight.Prints (.forEach "field" (.dot "message" "fields") Tree.parameter)
      (Text.concat (m.fields.mapIdx fun i f => parameterLine (i + 1 == m.fields.length) f)) :=
    prints_rounds hsome hfields Field.holdsRound_view fun _ _ _ _ _ _ =>
      PrintsAll.writes (printsAll_parameter (h.enter (by decide) hroom) (names_enter_self ..)
        (names_enter_loop (by decide) ..))
  have hassignments : sight.Prints (.forEach "field" (.dot "message" "fields") Tree.assignment)
      (Text.concat (m.fields.map assignmentLine)) :=
    prints_forEach hsome hfields Field.holdsRound_view fun _ _ _ =>
      PrintsAll.writes (printsAll_assignment (names_enter_self ..))
  have hgetters : sight.Prints (.forEach "field" (.dot "message" "fields") Tree.getter)
      (Text.concat (m.fields.map getterBlock)) :=
    prints_forEach hsome hfields Field.holdsRound_view fun _ _ _ =>
      PrintsAll.writes (printsAll_getter (h.enter (by decide) hroom) (names_enter_self ..))
  have himport := prints_when (Decides.of_bool (gives_name hlists) Iff.rfl)
    (printsAll_single (prints_say "\nimport java.util.List;\n"))
  exact printsAll_concat (by
    simp [Tree.message, prints_put, prints_package hpackage, hdeclarations, hparameters,
      hassignments, hgetters, himport, hm, Message.view, findEntry])

theorem renders_message (package : String) (m : Message) (summary : Value) :
    Renders .java [
      ("gen", summary), ("message", m.view), ("package", .text package),
      ("uses_list", .bool m.hasList)] Tree.message (messageText package m) := by
  refine renders invokeMacro_typeRoutine (Writes.define (by decide +kernel) ?_)
  refine PrintsAll.writes (printsAll_message ⟨rfl, names_bind_self .., rfl, by simp [callDepth]⟩
    (by simp [callDepth]) ?_ ?_ ?_)
  · simp [findEntry]
  · simp [findEntry]
  · simp [findEntry]

end ApiStubs.Java
