import ApiStubs.Proofs.Schema.Qualification
import ApiStubs.Proofs.Text.Lines
import ApiStubs.Proofs.Verbs

/-!
# The Java files, line by line

Every class has a file of its own, and its lines follow from the description, before anything is
flattened.  The class of a message has a member, a parameter of the constructor and a getter for
every field, all three of one type.  What follows a parameter or a constant depends on whether it is
the last one.
-/

namespace ApiStubs

/-! ## Lines from the description -/

/-- The type of a field in Java, with a list for a repeated one. -/
def Message.javaType (m : Message) (f : Field) : String :=
  if f.label = .repeated then Text.concat ["List<", m.typeIn .java f, ">"] else m.typeIn .java f

namespace Java

/-- The lines of every file up to the package, which is named if there is one. -/
def packageLines (package : String) : List String :=
  "// Code generated by protoapi; DO NOT EDIT." ::
    if package = "" then [] else ["", "package " ++ package ++ ";"]

/-! ### Messages -/

/-- The member of a class for a field. -/
def memberRow (m : Message) (f : Field) : String :=
  Text.concat ["    private final ", m.javaType f, " ", f.name, ";"]

/-- The parameter of the constructor for a field. -/
def parameterRow (m : Message) (f : Field) : String :=
  Text.concat ["            @JsonProperty(\"", f.key, "\") ", m.javaType f, " ", f.name]

/-- The line of the constructor that sets a field. -/
def assignmentRow (f : Field) : String := Text.concat ["        this.", f.name, " = ", f.name, ";"]

/-- The getter for a field. -/
def getterLines (m : Message) (f : Field) : List String := [
  "",
  Text.concat ["    public ", m.javaType f, " get", Text.capitalize f.name, "() \x7b"],
  "        return " ++ f.name ++ ";",
  "    \x7d"]

/-- What the class of a message imports.  Lists are imported if some field has one. -/
def importLines (m : Message) : List String :=
  ["",
    "import com.fasterxml.jackson.annotation.JsonCreator;",
    "import com.fasterxml.jackson.annotation.JsonProperty;"] ++
  if ∃ f ∈ m.fields, f.label = .repeated then ["", "import java.util.List;"] else []

/-- The class of a message behind its name. -/
def bodyLines (m : Message) : List String :=
  m.fields.map (memberRow m) ++
  ["",
    "    @JsonCreator",
    "    public " ++ m.name ++ "("] ++
  Text.marked "," "" (m.fields.map (parameterRow m)) ++
  ["    ) \x7b"] ++
  m.fields.map assignmentRow ++
  ["    \x7d"] ++
  m.fields.flatMap (getterLines m) ++
  ["\x7d"]

/-- The file of a message behind the package. -/
def messageLines (m : Message) : List String :=
  importLines m ++ ["", "public class " ++ m.name ++ " \x7b"] ++ bodyLines m

/-! ### Enumerations -/

/-- The constant of an enumeration for a value. -/
def constantRow (v : EnumValue) : String :=
  Text.concat ["    ", v.name, "(", Text.decimal v.value.toInt, ")"]

/-- The constants of an enumeration, which are ended also when there are none. -/
def constantLines (values : List EnumValue) : List String :=
  if values = [] then ["    ;"] else Text.marked "," ";" (values.map constantRow)

/-- The file of an enumeration behind the package. -/
def enumLines (e : Enumeration) : List String :=
  ["",
    "import com.fasterxml.jackson.annotation.JsonValue;",
    "",
    "public enum " ++ e.name ++ " \x7b"] ++
  constantLines e.values ++
  ["",
    "    private final int value;",
    "",
    "    " ++ e.name ++ "(int value) \x7b",
    "        this.value = value;",
    "    \x7d",
    "",
    "    @JsonValue",
    "    public int getValue() \x7b",
    "        return value;",
    "    \x7d",
    "\x7d"]

/-! ### Services -/

/-- The annotation that maps a path under a verb. -/
def mapping : BoundVerb → String
  | .get => "GetMapping"
  | .post => "PostMapping"

/-- What the name of a mapped method ends with, up to its input. -/
def mappedEnd : BoundVerb → String
  | .get => "Get("
  | .post => "Post(@RequestBody "

/-- The line that maps the path of a method under a verb. -/
def mappingRow (service : String) (m : Method) (verb : BoundVerb) : String :=
  Text.concat ["    @", mapping verb, "(\"/", service, ".", m.name, "\")"]

/-- The method that is mapped under a verb. -/
def mappedLines (service : String) (m : Method) (verb : BoundVerb) : List String := [
  "",
  mappingRow service m verb,
  "    @ResponseBody",
  Text.concat ["    public ", m.outputType, " ", m.name, mappedEnd verb, m.inputType, " in) \x7b"],
  "        return " ++ m.name ++ "(in);",
  "    \x7d"]

/-- The method that is left to implement. -/
def abstractRow (m : Method) : String :=
  Text.concat ["    abstract ", m.outputType, " ", m.name, "(", m.inputType, " in);"]

/-- What the base class of a service has for a method. -/
def methodLines (service : String) (m : Method) : List String :=
  ([BoundVerb.post, .get].filter (· ∈ m.boundVerbs)).flatMap (mappedLines service m) ++
    ["", abstractRow m]

/-- The file of the base class of a service behind the package. -/
def serviceLines (s : Service) : List String :=
  ["",
    "import org.springframework.web.bind.annotation.GetMapping;",
    "import org.springframework.web.bind.annotation.PostMapping;",
    "import org.springframework.web.bind.annotation.RequestBody;",
    "import org.springframework.web.bind.annotation.ResponseBody;",
    "",
    "public abstract class " ++ s.name ++ "Base \x7b"] ++
  s.methods.flatMap (methodLines s.name) ++
  ["\x7d"]

/-! ## What the templates write -/

open Asset

theorem linesText_packageLines (package : String) :
    linesText (packageLines package) = heading ++ packageLine package := by
  rw [packageLines, packageLine, heading]
  split
  · simp only [linesText_cons, linesText_nil, String.append_empty, String.reduceAppend]
  · simp only [linesText_cons, linesText_nil, Text.concat, String.append_assoc, String.append_empty,
      String.empty_append]
    simp only [Text.append_literals, String.reduceEq, not_false_eq_true, String.reduceAppend]

section Messages

variable (m : Message) (f : Field)

theorem fieldType_localField : fieldType (m.localField f) = m.javaType f := rfl

theorem declarationLine_localField : declarationLine (m.localField f) = memberRow m f ++ "\n" := by
  rw [declarationLine, fieldType_localField, memberRow]
  simp only [Message.localField, Text.concat, String.append_assoc, String.append_empty,
    String.reduceAppend]

theorem assignmentLine_localField : assignmentLine (m.localField f) = assignmentRow f ++ "\n" := by
  simp only [assignmentLine, assignmentRow, Message.localField, Text.concat, String.append_assoc,
    String.append_empty, String.reduceAppend]

theorem getterBlock_localField : getterBlock (m.localField f) = linesText (getterLines m f) := by
  rw [getterBlock, fieldType_localField, getterLines]
  simp only [Message.localField, linesText_cons, linesText_nil, Text.concat, String.append_assoc,
    String.append_empty, String.empty_append]
  simp only [Text.append_literals, String.reduceEq, not_false_eq_true, String.reduceAppend]

theorem hasList_flatten : m.flatten.value.hasList = true ↔ ∃ f ∈ m.fields, f.label = .repeated := by
  rw [Message.hasList, Message.fields_flatten]
  simp [Message.localField, Label.isRepeated]

theorem parameters_flatten :
    Text.concat (m.flatten.value.fields.mapIdx fun i f =>
        parameterLine (i + 1 == m.flatten.value.fields.length) f) =
      linesText (Text.marked "," "" (m.fields.map (parameterRow m))) := by
  have hwrite (isLast : Bool) (f : Field) : parameterLine isLast f =
      Text.concat ["            @JsonProperty(\"", f.key, "\") ", fieldType f, " ", f.name] ++
        (if isLast = true then "" else ",") ++ "\n" := by
    simp only [parameterLine, Text.concat, String.append_assoc, String.append_empty]
  rw [Message.fields_flatten, ← Text.linesText_marked hwrite, List.map_map]
  rfl

theorem messageText_flatten (package : String) :
    messageText package m.flatten.value = linesText (packageLines package ++ messageLines m) := by
  have himports : messageImports =
      linesText ["", "import com.fasterxml.jackson.annotation.JsonCreator;",
      "import com.fasterxml.jackson.annotation.JsonProperty;"] := by decide +kernel
  have hlists : (if m.flatten.value.hasList = true then "\nimport java.util.List;\n" else "") =
      linesText (if ∃ f ∈ m.fields, f.label = .repeated then
        ["", "import java.util.List;"] else []) := by
    by_cases hlist : ∃ f ∈ m.fields, f.label = .repeated
    · rw [if_pos hlist, if_pos ((hasList_flatten m).2 hlist)]
      decide +kernel
    · rw [if_neg hlist, if_neg ((hasList_flatten m).not.2 hlist), linesText_nil]
  have hmembers : m.flatten.value.fields.map declarationLine =
      m.fields.map fun f => memberRow m f ++ "\n" := by
    rw [Message.fields_flatten, List.map_map]
    exact List.map_congr_left fun f _ => declarationLine_localField m f
  have hassignments : m.flatten.value.fields.map assignmentLine =
      m.fields.map fun f => assignmentRow f ++ "\n" := by
    rw [Message.fields_flatten, List.map_map]
    exact List.map_congr_left fun f _ => assignmentLine_localField m f
  have hgetters : m.flatten.value.fields.map getterBlock =
      m.fields.map fun f => linesText (getterLines m f) := by
    rw [Message.fields_flatten, List.map_map]
    exact List.map_congr_left fun f _ => getterBlock_localField m f
  rw [messageText, messageLines, importLines, bodyLines, parameters_flatten, hmembers, hassignments,
    hgetters, ← linesText_map, ← linesText_map, ← linesText_flatMap, Message.name_flatten, himports,
    hlists]
  simp only [linesText_append, linesText_packageLines, linesText_cons, linesText_nil, Text.concat,
    String.append_assoc, String.append_empty, String.empty_append]
  simp only [Text.append_literals, String.reduceEq, not_false_eq_true, String.reduceAppend]

end Messages

theorem constants_eq (values : List EnumValue) :
    (if values = [] then "    ;\n" else "") ++
        Text.concat (values.mapIdx fun i v => constantLine (i + 1 == values.length) v) =
      linesText (constantLines values) := by
  have hwrite (isLast : Bool) (v : EnumValue) : constantLine isLast v =
      constantRow v ++ (if isLast = true then ";" else ",") ++ "\n" := by
    simp only [constantLine, constantRow, Text.concat, String.append_assoc, String.append_empty]
  rw [← Text.linesText_marked hwrite, constantLines]
  cases values with
  | nil => decide +kernel
  | cons v rest => simp

theorem enumText_eq (package : String) (e : Enumeration) :
    enumText package e = linesText (packageLines package ++ enumLines e) := by
  have himports : enumImports =
      linesText ["", "import com.fasterxml.jackson.annotation.JsonValue;", ""] ++
      "public enum " := by decide +kernel
  have hend : enumEnd = "(int value) \x7b" ++ ("\n" ++ linesText [
      "        this.value = value;",
      "    \x7d",
      "",
      "    @JsonValue",
      "    public int getValue() \x7b",
      "        return value;",
      "    \x7d",
      "\x7d"]) := by decide +kernel
  rw [enumText, enumLines, himports, hend]
  simp only [linesText_append, linesText_packageLines, ← constants_eq, linesText_cons,
    linesText_nil, Text.concat, String.append_assoc, String.append_empty, String.empty_append]
  simp only [Text.append_literals, String.reduceEq, not_false_eq_true, String.reduceAppend]

theorem mappedMethod_eq (service : String) (m : Method) (verb : BoundVerb) :
    mappedMethod (mapping verb) (mappedEnd verb) service m =
      linesText (mappedLines service m verb) := by
  simp only [mappedMethod, mappedLines, mappingRow, Method.path, linesText_cons, linesText_nil,
    Text.concat, String.append_assoc, String.append_empty, String.empty_append]
  simp only [Text.append_literals, String.reduceEq, not_false_eq_true, String.reduceAppend]

theorem methodBlock_eq_lines (service : String) (m : Method) :
    methodBlock service m = linesText (methodLines service m) := by
  have hpost : mappedMethod "PostMapping" "Post(@RequestBody " service m =
      linesText (mappedLines service m .post) := mappedMethod_eq service m .post
  have hget : mappedMethod "GetMapping" "Get(" service m =
      linesText (mappedLines service m .get) := mappedMethod_eq service m .get
  rw [methodBlock_eq, boundBlock, methodLines, hpost, hget, abstractRow]
  simp only [List.filter_cons, List.filter_nil, decide_eq_true_eq, linesText_append, linesText_cons,
    linesText_nil, Text.concat, String.append_assoc, String.append_empty, String.empty_append]
  simp only [Text.append_literals, String.reduceEq, not_false_eq_true, String.reduceAppend]
  split <;> split <;>
    simp only [List.flatMap_cons, List.flatMap_nil, linesText_append, linesText_nil,
      String.append_assoc, String.empty_append, List.append_nil]

theorem controllerText_eq (package : String) (s : Service) :
    controllerText package s = linesText (packageLines package ++ serviceLines s) := by
  have himports : controllerImports = linesText ["",
      "import org.springframework.web.bind.annotation.GetMapping;",
      "import org.springframework.web.bind.annotation.PostMapping;",
      "import org.springframework.web.bind.annotation.RequestBody;",
      "import org.springframework.web.bind.annotation.ResponseBody;",
      ""] ++ "public abstract class " := by decide +kernel
  have hmethods : s.methods.map (methodBlock s.name) =
      s.methods.map fun m => linesText (methodLines s.name m) :=
    List.map_congr_left fun m _ => methodBlock_eq_lines s.name m
  rw [controllerText, controllerFrame, serviceLines, hmethods, ← linesText_flatMap, himports]
  simp only [linesText_append, linesText_packageLines, linesText_cons, linesText_nil, Text.concat,
    String.append_assoc, String.append_empty, String.empty_append]
  simp only [Text.append_literals, String.reduceEq, not_false_eq_true, String.reduceAppend]

/-! ## Where a line can stand -/

/-- A line that is empty, set off or ends a class, as all lines are behind the name of the class. -/
def IsInner (line : String) : Prop := ∀ c ∈ line.toList.head?, c = ' ' ∨ c = '\x7d'

theorem isInner_empty : IsInner "" := by simp [IsInner]

theorem isInner_end : IsInner "\x7d" := by simp [IsInner]

section Inner

variable (chars : List Char) (texts : List String)

theorem isInner_append (s : String) : IsInner (String.ofList (' ' :: chars) ++ s) := by
  simp [IsInner]

theorem isInner_ofList : IsInner (String.ofList (' ' :: chars)) := by
  simp [IsInner]

theorem isInner_concat : IsInner (Text.concat (String.ofList (' ' :: chars) :: texts)) :=
  isInner_append chars _

theorem isInner_concat_append (s : String) :
    IsInner (Text.concat (String.ofList (' ' :: chars) :: texts) ++ s) := by
  rw [Text.concat, String.append_assoc]
  exact isInner_append chars _

end Inner

theorem isInner_getterLines (m : Message) (f : Field) : ∀ line ∈ getterLines m f, IsInner line := by
  simp only [getterLines, List.forall_mem_cons, List.not_mem_nil, false_imp_iff, implies_true,
    and_true, String.append_assoc]
  exact ⟨isInner_empty, isInner_concat _ _, isInner_append _ _, isInner_ofList _⟩

theorem isInner_bodyLines (m : Message) : ∀ line ∈ bodyLines m, IsInner line := by
  have hparameters : ∀ line ∈ Text.marked "," "" (m.fields.map (parameterRow m)), IsInner line :=
    Text.forall_mem_marked (List.forall_mem_map.2 fun f _ => isInner_concat_append _ _) _ _
  simp only [bodyLines, List.forall_mem_append, List.forall_mem_cons, List.forall_mem_map,
    List.forall_mem_flatMap, List.not_mem_nil, false_imp_iff, implies_true, and_true, and_assoc,
    String.append_assoc]
  exact ⟨fun f _ => isInner_concat _ _, isInner_empty, isInner_ofList _, isInner_append _ _,
    hparameters, isInner_ofList _, fun f _ => isInner_concat _ _, isInner_ofList _,
    fun f _ => isInner_getterLines m f, isInner_end⟩

theorem isInner_constantLines (values : List EnumValue) :
    ∀ line ∈ constantLines values, IsInner line := by
  unfold constantLines
  split
  · exact List.forall_mem_singleton.2 (isInner_ofList _)
  · exact Text.forall_mem_marked (List.forall_mem_map.2 fun v _ => isInner_concat_append _ _) _ _

theorem isInner_methodLines (service : String) (m : Method) :
    ∀ line ∈ methodLines service m, IsInner line := by
  have hmapped (verb : BoundVerb) : ∀ line ∈ mappedLines service m verb, IsInner line := by
    simp only [mappedLines, List.forall_mem_cons, List.not_mem_nil, false_imp_iff, implies_true,
      and_true, String.append_assoc]
    exact ⟨isInner_empty, isInner_concat _ _, isInner_ofList _, isInner_concat _ _,
      isInner_append _ _, isInner_ofList _⟩
  simp only [methodLines, List.forall_mem_append, List.forall_mem_cons, List.forall_mem_flatMap,
    List.not_mem_nil, false_imp_iff, implies_true, and_true]
  exact ⟨fun verb _ => hmapped verb, isInner_empty, isInner_concat _ _⟩

/-! ### The package -/

section Package

variable {package : String}

theorem package_ne_of_isInner {line : String} (h : IsInner line) :
    "package " ++ package ++ ";" ≠ line := by
  rintro rfl
  simp [IsInner] at h

theorem package_ne_import (chars : List Char) :
    "package " ++ package ++ ";" ≠ String.ofList ('i' :: chars) := by
  simp [← String.toList_inj]

theorem package_ne_public (chars : List Char) (s t : String) :
    "package " ++ package ++ ";" ≠ String.ofList ('p' :: 'u' :: chars) ++ s ++ t := by
  simp [← String.toList_inj]

/-- No line behind the name of a class names a package. -/
theorem package_not_mem_append {opening inner : List String}
    (h : "package " ++ package ++ ";" ∉ opening) (hinner : ∀ line ∈ inner, IsInner line) :
    "package " ++ package ++ ";" ∉ opening ++ inner := by
  intro hmem
  rcases List.mem_append.1 hmem with hopening | hmem
  · exact h hopening
  · exact package_ne_of_isInner (hinner _ hmem) rfl

variable (package)

theorem package_not_mem_messageLines (m : Message) :
    "package " ++ package ++ ";" ∉ messageLines m := by
  have hempty : "package " ++ package ++ ";" ≠ "" := package_ne_of_isInner isInner_empty
  have hlists : "package " ++ package ++ ";" ∉
      if ∃ f ∈ m.fields, f.label = .repeated then ["", "import java.util.List;"] else [] := by
    split
    · simp only [List.mem_cons, List.not_mem_nil, or_false, not_or]
      exact ⟨hempty, package_ne_import _⟩
    · exact List.not_mem_nil
  refine package_not_mem_append ?_ (isInner_bodyLines m)
  simp only [importLines, List.mem_append, List.mem_cons, List.not_mem_nil, or_false, not_or]
  exact ⟨⟨⟨hempty, package_ne_import _, package_ne_import _⟩, hlists⟩, hempty,
    package_ne_public _ _ _⟩

theorem package_not_mem_enumLines (e : Enumeration) :
    "package " ++ package ++ ";" ∉ enumLines e := by
  have hempty : "package " ++ package ++ ";" ≠ "" := package_ne_of_isInner isInner_empty
  refine package_not_mem_append (package_not_mem_append ?_ (isInner_constantLines e.values)) ?_
  · simp only [List.mem_cons, List.not_mem_nil, or_false, not_or]
    exact ⟨hempty, package_ne_import _, hempty, package_ne_public _ _ _⟩
  · simp only [List.forall_mem_cons, List.not_mem_nil, false_imp_iff, implies_true, and_true,
      String.append_assoc]
    exact ⟨isInner_empty, isInner_ofList _, isInner_empty, isInner_append _ _, isInner_ofList _,
      isInner_ofList _, isInner_empty, isInner_ofList _, isInner_ofList _, isInner_ofList _,
      isInner_ofList _, isInner_end⟩

theorem package_not_mem_serviceLines (s : Service) :
    "package " ++ package ++ ";" ∉ serviceLines s := by
  have hempty : "package " ++ package ++ ";" ≠ "" := package_ne_of_isInner isInner_empty
  refine package_not_mem_append (package_not_mem_append ?_ ?_)
    (List.forall_mem_singleton.2 isInner_end)
  · simp only [List.mem_cons, List.not_mem_nil, or_false, not_or]
    exact ⟨hempty, package_ne_import _, package_ne_import _, package_ne_import _,
      package_ne_import _, hempty, package_ne_public _ _ _⟩
  · exact List.forall_mem_flatMap.2 fun m _ => isInner_methodLines s.name m

theorem package_mem_packageLines_iff :
    "package " ++ package ++ ";" ∈ packageLines package ↔ package ≠ "" := by
  have hheading : "package " ++ package ++ ";" ≠ "// Code generated by protoapi; DO NOT EDIT." := by
    simp [← String.toList_inj]
  rw [packageLines, List.mem_cons, or_iff_right hheading]
  split <;> simp_all

end Package

theorem list_mem_messageLines_iff (m : Message) :
    "import java.util.List;" ∈ messageLines m ↔ ∃ f ∈ m.fields, f.label = .repeated := by
  have hbody : "import java.util.List;" ∉ bodyLines m := by
    intro hmem
    have hinner := isInner_bodyLines m _ hmem
    simp [IsInner] at hinner
  have hclass : "import java.util.List;" ≠ "public class " ++ m.name ++ " \x7b" := by
    simp [← String.toList_inj]
  simp [messageLines, importLines, hbody, hclass]

/-! ### Methods -/

section Methods

variable (service : String) (m : Method)

theorem mappingRow_injective : Function.Injective (mappingRow service m) := by
  intro verb other h
  cases verb <;> cases other <;> simp_all [mappingRow, mapping, Text.concat]

theorem mappingRow_mem_mappedLines_iff (verb other : BoundVerb) :
    mappingRow service m verb ∈ mappedLines service m other ↔ verb = other := by
  have hempty : mappingRow service m verb ≠ "" := by simp [mappingRow, Text.concat]
  have hresponse : mappingRow service m verb ≠ "    @ResponseBody" := by
    cases verb <;> simp [mappingRow, mapping, Text.concat, ← String.toList_inj]
  have hpublic (texts : List String) : mappingRow service m verb ≠
      Text.concat ("    public " :: texts) := by
    simp [mappingRow, Text.concat, ← String.toList_inj]
  have hreturn (s : String) : mappingRow service m verb ≠ "        return " ++ s := by
    simp [mappingRow, Text.concat, ← String.toList_inj]
  have hend : mappingRow service m verb ≠ "    \x7d" := by
    intro h
    have hlist := congrArg String.toList h
    simp [mappingRow, Text.concat] at hlist
  simp only [mappedLines, List.mem_cons, List.not_mem_nil, hempty, hresponse, hpublic, hreturn,
    hend, String.append_assoc, false_or, or_false]
  exact (mappingRow_injective service m).eq_iff

theorem mappingRow_ne_abstractRow (verb : BoundVerb) :
    mappingRow service m verb ≠ abstractRow m := by
  simp [mappingRow, abstractRow, Text.concat, ← String.toList_inj]

/-- A path is mapped under just the verbs under which it is bound. -/
theorem mappingRow_mem_iff (verb : BoundVerb) :
    mappingRow service m verb ∈ methodLines service m ↔ verb ∈ m.boundVerbs := by
  have hempty : mappingRow service m verb ≠ "" := by simp [mappingRow, Text.concat]
  have hfilter : verb ∈ [BoundVerb.post, .get].filter (· ∈ m.boundVerbs) ↔ verb ∈ m.boundVerbs := by
    cases verb <;> simp
  simp only [methodLines, List.mem_append, List.mem_flatMap, mappingRow_mem_mappedLines_iff,
    List.mem_cons, List.not_mem_nil, hempty, mappingRow_ne_abstractRow, or_false, exists_eq_right',
    hfilter]

theorem abstractRow_not_mem_mappedLines (verb : BoundVerb) :
    abstractRow m ∉ mappedLines service m verb := by
  have hempty : abstractRow m ≠ "" := by simp [abstractRow, Text.concat]
  have hresponse : abstractRow m ≠ "    @ResponseBody" := by
    simp [abstractRow, Text.concat, ← String.toList_inj]
  have hpublic (texts : List String) : abstractRow m ≠ Text.concat ("    public " :: texts) := by
    simp [abstractRow, Text.concat, ← String.toList_inj]
  have hreturn (s : String) : abstractRow m ≠ "        return " ++ s := by
    simp [abstractRow, Text.concat, ← String.toList_inj]
  have hend : abstractRow m ≠ "    \x7d" := by simp [abstractRow, Text.concat, ← String.toList_inj]
  have hmapping := (mappingRow_ne_abstractRow service m verb).symm
  simp only [mappedLines, List.mem_cons, List.not_mem_nil, hempty, hmapping, hresponse, hpublic,
    hreturn, hend, String.append_assoc, or_false, not_false_eq_true]

/-- One method is left to implement, whatever is mapped. -/
theorem count_abstractRow : (methodLines service m).count (abstractRow m) = 1 := by
  have hmapped : abstractRow m ∉
      ([BoundVerb.post, .get].filter (· ∈ m.boundVerbs)).flatMap (mappedLines service m) := by
    intro hmem
    obtain ⟨verb, -, hmem⟩ := List.mem_flatMap.1 hmem
    exact abstractRow_not_mem_mappedLines service m verb hmem
  have hempty : "" ≠ abstractRow m := by simp [abstractRow, Text.concat, ← String.toList_inj]
  rw [methodLines, List.count_append, List.count_eq_zero.2 hmapped, List.count_cons_of_ne hempty,
    List.count_singleton_self]

end Methods

end Java

/-! ## A run -/

/-- The classes of a description with the lines of their files behind the package. -/
def Request.javaClasses (request : Request) : List (String × List String) :=
  request.services.map (fun s => (s.name ++ "Base", Java.serviceLines s)) ++
    request.messages.map (fun m => (m.name, Java.messageLines m)) ++
    request.enums.map fun e => (e.name, Java.enumLines e)

theorem Request.package_mem_iff {request : Request} {file : String × List String}
    (h : file ∈ request.javaClasses) (package : String) :
    "package " ++ package ++ ";" ∈ Java.packageLines package ++ file.2 ↔ package ≠ "" := by
  have hother : "package " ++ package ++ ";" ∉ file.2 := by
    simp only [javaClasses, List.mem_append, List.mem_map] at h
    rcases h with (⟨s, -, rfl⟩ | ⟨m, -, rfl⟩) | ⟨e, -, rfl⟩
    · exact Java.package_not_mem_serviceLines package s
    · exact Java.package_not_mem_messageLines package m
    · exact Java.package_not_mem_enumLines package e
  rw [List.mem_append, or_iff_left hother, Java.package_mem_packageLines_iff]

section Runs

variable {request : Request} {service : Option Service}
  (hservice : request.services = service.toList)

include hservice

theorem classNames_eq : classNames request service = request.javaClasses.map Prod.fst := by
  simp [classNames, Request.javaClasses, hservice, Function.comp_def]

/-- The pages of the backend are the classes. -/
theorem springPages_eq : Backend.springPages request service = request.javaClasses.map fun file =>
    (classPath request file.1,
      Asset.linesText (Java.packageLines request.packageName ++ file.2)) := by
  have hmessages : (flattenAll request.messages).map (fun m =>
      (Backend.classFile (Package.directory request.packageName) m.name,
        Java.messageText request.packageName m)) =
      request.messages.map fun m => (classPath request m.name,
        Asset.linesText (Java.packageLines request.packageName ++ Java.messageLines m)) := by
    rw [flattenAll, List.map_map]
    refine List.map_congr_left fun m _ => ?_
    rw [Function.comp_apply, Message.name_flatten, classFile_eq_classPath, Java.messageText_flatten]
  simp only [Backend.springPages, hmessages, Request.javaClasses, hservice]
  cases service <;> simp [classFile_eq_classPath, Java.controllerText_eq, Java.enumText_eq,
    Function.comp_def]

end Runs

/-- A run for Java ends with files exactly when the classes have different names.  Then there is a
file for every class and no other, and every file names the package if there is one.  Lists are
imported just for messages that have some.  The base class of a service has a method under each verb
that a method allows, and one method to implement. -/
theorem spring_files_text {request : Request} (hservices : request.services.length ≤ 1) :
    ((∃ files, (Generator.standard .builtin).generate "spring" request = .ok files) ↔
      (request.javaClasses.map Prod.fst).Nodup) ∧
    (∀ files, (Generator.standard .builtin).generate "spring" request = .ok files →
      files.names.Perm (request.javaClasses.map fun file => classPath request file.1) ∧
      ∀ file ∈ request.javaClasses,
        files.get? (classPath request file.1) =
          some (Asset.linesText (Java.packageLines request.packageName ++ file.2)) ∧
        ("package " ++ request.packageName ++ ";" ∈
            Java.packageLines request.packageName ++ file.2 ↔
          request.packageName ≠ "")) ∧
    (∀ m ∈ request.messages,
      "import java.util.List;" ∈ Java.messageLines m ↔ ∃ f ∈ m.fields, f.label = .repeated) ∧
    ∀ s ∈ request.services, ∀ m ∈ s.methods,
      (Java.mappingRow s.name m .post ∈ Java.methodLines s.name m ↔ m.verb ≠ "GET") ∧
      (Java.mappingRow s.name m .get ∈ Java.methodLines s.name m ↔ m.verb ≠ "POST") ∧
      (Java.methodLines s.name m).count (Java.abstractRow m) = 1 := by
  have hservice := services_eq_toList_head? hservices
  have hends := exists_files_iff spring_mem_standardBackends hservice
  rw [nodup_spring_iff, classNames_eq hservice] at hends
  refine ⟨hends, fun files hfiles => ⟨?_, fun file hfile => ⟨?_, Request.package_mem_iff hfile _⟩⟩,
    fun m _ => Java.list_mem_messageLines_iff m, fun s _ m _ => ?_⟩
  · have hnames := (nodup_spring_iff request request.services.head?).2
      (classNames_eq hservice ▸ hends.1 ⟨files, hfiles⟩)
    obtain ⟨others, hothers, hperm⟩ := generate_of_nodup spring_mem_standardBackends hservice hnames
    obtain rfl : others = files := Except.ok.inj (hothers.symm.trans hfiles)
    rwa [plannedNames, classNames_eq hservice, List.map_map] at hperm
  · rw [generate_builtin_of_found (find_standard spring_mem_standardBackends) hservice] at hfiles
    have hpage : (classPath request file.1,
        Asset.linesText (Java.packageLines request.packageName ++ file.2)) ∈
          Backend.spring.pages request request.services.head? := by
      rw [Backend.pages, springPages_eq hservice]
      exact List.mem_map.2 ⟨file, hfile, rfl⟩
    have hget := OutputFiles.get?_addAll hfiles hpage
    exact hget
  · rw [Java.mappingRow_mem_iff, Java.mappingRow_mem_iff]
    exact ⟨m.post_mem_boundVerbs, m.get_mem_boundVerbs, Java.count_abstractRow s.name m⟩

/-- A parcel has contents and a weight. -/
def parcel : Message :=
  ⟨"Parcel", [
    ⟨"contents", "parcel_contents", ".com.post.Item", .repeated, "", SortedMap.empty⟩,
    Field.ofType "weight" "int64"], .optional, "com.post"⟩

/-- Parcels are sent besides letters, which have no fields, to zones, of which there are none. -/
def parcelPost : Request :=
  { Request.empty with
    packageName := "com.post"
    services := [⟨"Post", [⟨"send", "Parcel", "Receipt", SortedMap.empty⟩], SortedMap.empty⟩]
    messages := [parcel, Message.ofFields "Letter" []]
    enums := [⟨"Size", [⟨"SMALL", 0⟩, ⟨"LARGE", 4⟩]⟩, ⟨"Zone", []⟩] }

theorem spring_files_text_parcels :
    parcelPost.services.length ≤ 1 ∧
    ∃ files, (Generator.standard .builtin).generate "spring" parcelPost = .ok files ∧
      files.names.Perm ["com/post/PostBase.java", "com/post/Parcel.java", "com/post/Letter.java",
        "com/post/Size.java", "com/post/Zone.java"] ∧
      files.get? "com/post/Parcel.java" = some (Asset.linesText [
        "// Code generated by protoapi; DO NOT EDIT.",
        "",
        "package com.post;",
        "",
        "import com.fasterxml.jackson.annotation.JsonCreator;",
        "import com.fasterxml.jackson.annotation.JsonProperty;",
        "",
        "import java.util.List;",
        "",
        "public class Parcel \x7b",
        "    private final List<Item> contents;",
        "    private final Long weight;",
        "",
        "    @JsonCreator",
        "    public Parcel(",
        "            @JsonProperty(\"parcel_contents\") List<Item> contents,",
        "            @JsonProperty(\"weight\") Long weight",
        "    ) \x7b",
        "        this.contents = contents;",
        "        this.weight = weight;",
        "    \x7d",
        "",
        "    public List<Item> getContents() \x7b",
        "        return contents;",
        "    \x7d",
        "",
        "    public Long getWeight() \x7b",
        "        return weight;",
        "    \x7d",
        "\x7d"]) ∧
      parcelPost.enums.map (fun e => Java.constantLines e.values) =
        [["    SMALL(0),", "    LARGE(4);"], ["    ;"]] ∧
      "import java.util.List;" ∉ Java.messageLines (Message.ofFields "Letter" []) := by
  have hservices : parcelPost.services.length ≤ 1 := by decide
  obtain ⟨hends, hruns, hlists, -⟩ := spring_files_text hservices
  obtain ⟨files, hrun⟩ := hends.2 (by decide)
  obtain ⟨hnames, htexts⟩ := hruns files hrun
  have hletter := hlists (Message.ofFields "Letter" []) (by decide)
  have hparcel : (parcel.name, Java.messageLines parcel) ∈ parcelPost.javaClasses :=
    List.mem_append_left _ (List.mem_append_right _ List.mem_cons_self)
  have hpaths : parcelPost.javaClasses.map (fun file => classPath parcelPost file.1) = [
      "com/post/PostBase.java", "com/post/Parcel.java", "com/post/Letter.java",
      "com/post/Size.java", "com/post/Zone.java"] ∧
      classPath parcelPost parcel.name = "com/post/Parcel.java" := by decide +kernel
  obtain ⟨htext, -⟩ := htexts _ hparcel
  rw [hpaths.1] at hnames
  rw [hpaths.2] at htext
  refine ⟨hservices, files, hrun, hnames, htext.trans (congrArg some ?_), by decide +kernel, ?_⟩
  · decide +kernel
  · rw [hletter]
    simp [Message.ofFields]

end ApiStubs
