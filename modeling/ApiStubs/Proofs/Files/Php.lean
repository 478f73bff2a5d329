import ApiStubs.Proofs.Generation
import ApiStubs.Proofs.Schema.Package
import ApiStubs.Proofs.Schema.Qualification
import ApiStubs.Proofs.Text.Lines

/-!
# The PHP file, line by line

There is one file, and its lines follow from the description, before anything is flattened: a class
for every enumeration and for every message, and a client for a service that has a name.  The class
of a message goes through its fields twice, to read them from a response and to write them to a
request.  Both times a field has the same form, which the lines of either place tell.
-/

namespace ApiStubs

/-! ## Forms of fields -/

/-- How the class of a message keeps a field: as the value that it is, as a list of objects or as an
object. -/
inductive Php.Form where
  | plain
  | objects
  | object
  deriving DecidableEq, Repr

/-- A field has a form.  It is plain if its type, freed of the package of the message, is a scalar
or an enumeration of the description.  Otherwise a repeated field is a list of objects, and any
other an object. -/
def Request.HasForm (request : Request) (m : Message) (f : Field) : Php.Form → Prop
  | .plain => ¬ request.IsPointedTo (Package.strip f.dataType m.package)
  | .objects => request.IsPointedTo (Package.strip f.dataType m.package) ∧ f.label = .repeated
  | .object => request.IsPointedTo (Package.strip f.dataType m.package) ∧ f.label ≠ .repeated

/-- The form of a field. -/
def Request.formOf (request : Request) (m : Message) (f : Field) : Php.Form :=
  if request.IsPointedTo (Package.strip f.dataType m.package) then
    if f.label = .repeated then .objects else .object
  else .plain

theorem Request.hasForm_iff (request : Request) (m : Message) (f : Field) (form : Php.Form) :
    request.HasForm m f form ↔ form = request.formOf m f := by
  unfold formOf
  cases form <;> split_ifs <;> simp_all [HasForm]

/-- The services that have a name. -/
def Request.namedServices (request : Request) : List Service :=
  request.services.filter (·.name ≠ "")

theorem Request.mem_namedServices {request : Request} {s : Service} :
    s ∈ request.namedServices ↔ s ∈ request.services ∧ s.name ≠ "" := by
  simp [namedServices]

namespace Php

/-! ## Lines from the description -/

/-- The lines that every file starts with. -/
def headingLines : List String := [
  "<?php",
  "/**",
  " * This file is generated by protoapi.",
  " * DO NOT EDIT.",
  " */"]

/-- The line of the namespace. -/
def namespaceRow (package : String) : String := "namespace " ++ Package.qualifiedName package ++ ";"

/-- The namespace, if the package has a segment that is not empty. -/
def namespaceLines (package : String) : List String :=
  if ∃ segment ∈ Text.segments '.' package, segment ≠ "" then ["", namespaceRow package] else []

/-- The line that a client needs. -/
def clientImportRow : String := "use GuzzleHttp\\Client as HttpClient;"

/-- The line of a constant of an enumeration. -/
def constantRow (v : EnumValue) : String :=
  Text.concat ["    const ", v.name, " = ", Text.decimal v.value.toInt, ";"]

/-- The class of an enumeration. -/
def enumLines (e : Enumeration) : List String :=
  ["",
    "final class " ++ e.name,
    "\x7b"] ++
  e.values.map constantRow ++
  ["\x7d"]

/-! ### Messages -/

/-- The member of a class for a field. -/
def memberRow (f : Field) : String := Text.concat ["    private $", f.name, ";"]

/-- The constructor of a class and the head of its validation. -/
def constructorLines : List String := [
  "",
  "    public function __construct(array $response = [])",
  "    \x7b",
  "        if ($response) \x7b",
  "            $this->validate($response);",
  "        \x7d",
  "    \x7d",
  "",
  "    public function validate(array $response)",
  "    \x7b"]

/-- How a field of a form is read from a response. -/
def readingLines (m : Message) (f : Field) : Form → List String
  | .plain => [Text.concat ["        $this->", f.name, " = $response[\"", f.key, "\"];"]]
  | .objects => [
      Text.concat ["        $this->", f.name, " = array_map(function ($item) \x7b"],
      Text.concat ["            return new ", Package.strip f.dataType m.package, "($item);"],
      Text.concat ["        \x7d, $response[\"", f.key, "\"]);"]]
  | .object => [
      Text.concat ["        $this->", f.name, " = new ", Package.strip f.dataType m.package,
        "($response[\"", f.key, "\"]);"]]

/-- How a field of a form is validated: it has to be there, and then it is read. -/
def validationLines (m : Message) (f : Field) (form : Form) : List String :=
  [Text.concat ["        if (!isset($response[\"", f.key, "\"])) \x7b"],
    Text.concat ["            throw new Exception(\"'", f.key, "' does not exist\");"],
    "        \x7d"] ++
  readingLines m f form

/-- The method that sets a field. -/
def setterLines (f : Field) : List String := [
  "",
  Text.concat ["    public function set_", f.name, "($", f.name, ")"],
  "    \x7b",
  Text.concat ["        $this->", f.name, " = $", f.name, ";"],
  "    \x7d"]

/-- The method that gives out a field. -/
def getterLines (f : Field) : List String := [
  "",
  Text.concat ["    public function get_", f.name, "()"],
  "    \x7b",
  Text.concat ["        return $this->", f.name, ";"],
  "    \x7d"]

/-- The entry of a field of a form in the array of a message. -/
def entryLines (f : Field) : Form → List String
  | .plain => [Text.concat ["            \"", f.key, "\" => $this->", f.name, ","]]
  | .objects => [
      Text.concat ["            \"", f.key, "\" => array_map(function ($item) \x7b"],
      "                return $item->to_array();",
      Text.concat ["            \x7d, $this->", f.name, "),"]]
  | .object => [Text.concat ["            \"", f.key, "\" => $this->", f.name, "->to_array(),"]]

/-- The class of a message. -/
def classLines (request : Request) (m : Message) : List String :=
  ["",
    "class " ++ m.name,
    "\x7b"] ++
  m.fields.map memberRow ++
  constructorLines ++
  m.fields.flatMap (fun f => validationLines m f (request.formOf m f)) ++
  ["    \x7d"] ++
  m.fields.flatMap (fun f => setterLines f ++ getterLines f) ++
  ["",
    "    public function to_array()",
    "    \x7b",
    "        return ["] ++
  m.fields.flatMap (fun f => entryLines f (request.formOf m f)) ++
  ["        ];",
    "    \x7d",
    "\x7d"]

/-! ### The client -/

/-- The member of a client, which no other class has. -/
def clientMemberRow : String := "    protected $httpClient;"

/-- The client behind its name, up to its methods. -/
def clientBodyLines : List String := [
  "\x7b",
  clientMemberRow,
  "",
  "    public function __construct($baseUri = '127.0.0.1:8080')",
  "    \x7b",
  "        $this->httpClient = new HttpClient(",
  "            [",
  "                'base_uri' => $baseUri,",
  "                'timeout' => 30,",
  "            ]",
  "        );",
  "    \x7d",
  "",
  "    private function callApi($req, $method, $uri, $outputName)",
  "    \x7b",
  "        $data = [",
  "            'json' => $req->to_array(),",
  "        ];",
  "        $response = $this->httpClient->request($method, $uri, $data);",
  "        $rawContent = $response->getBody()->getContents();",
  "",
  "        $content = json_decode($rawContent, true);",
  "        if (isset($content[\"error\"])) \x7b",
  "            throw new Exception($content[\"error\"][\"message\"]);",
  "        \x7d",
  "        if (isset($content[\"response\"])) \x7b",
  "            $result = new $outputName();",
  "            $result->validate($content[\"response\"]);",
  "            return $result;",
  "        \x7d",
  "        throw new Exception(\"Cannot find response body: \" . $rawContent);",
  "    \x7d"]

/-- The function of a client for a method. -/
def functionLines (service : String) (m : Method) : List String := [
  "",
  Text.concat ["    public function ", m.name, "(", m.inputType, " $req)"],
  "    \x7b",
  Text.concat ["        return $this->callApi($req, \"", m.verb, "\", \"/", service, ".", m.name,
    "\", __NAMESPACE__ . \"\\\\", m.outputType, "\");"],
  "    \x7d"]

/-- The client of a service. -/
def clientLines (s : Service) : List String :=
  ["",
    "class " ++ s.name] ++
  clientBodyLines ++
  s.methods.flatMap (functionLines s.name) ++
  ["\x7d"]

/-- The file. -/
def fileLines (request : Request) : List String :=
  headingLines ++
  namespaceLines request.packageName ++
  ["",
    "use Exception;"] ++
  request.namedServices.map (fun _ => clientImportRow) ++
  request.enums.flatMap enumLines ++
  request.messages.flatMap (classLines request) ++
  request.namedServices.flatMap clientLines

/-! ## What the template writes -/

open Asset

/-- The fixed texts of the file as lines. -/
theorem texts_eq :
    heading = linesText headingLines ∧
    constructor = linesText constructorLines ∧
    nestedArrays = "\" => array_map(function ($item) \x7b" ++
      ("\n" ++ ("                return $item->to_array();" ++
        ("\n" ++ "            \x7d, $this->"))) ∧
    clientBody = "\n" ++ linesText clientBodyLines := by
  decide +kernel

theorem enumBlock_eq (e : Enumeration) : enumBlock e = linesText (enumLines e) := by
  have hconstants : constantLine = fun v => constantRow v ++ "\n" := by
    funext v
    simp only [constantLine, constantRow, Text.concat, String.append_assoc, String.append_empty,
      String.reduceAppend]
  rw [enumBlock, enumLines, hconstants]
  simp only [linesText_append, linesText_cons, linesText_nil, linesText_map, Text.concat,
    String.append_assoc, String.append_empty, String.empty_append]
  simp only [Text.append_literals, String.reduceEq, not_false_eq_true, String.reduceAppend]

section Fields

variable (request : Request) (m : Message) (f : Field)

theorem declarationLine_localField : declarationLine (m.localField f) = memberRow f ++ "\n" := by
  simp only [declarationLine, memberRow, Message.localField, Text.concat, String.append_assoc,
    String.append_empty, String.reduceAppend]

/-- Of three texts the one for the form of a field is written. -/
theorem form_localField (texts : Form → String) :
    (if isPlainType (request.enums.map Enumeration.name) (m.localField f).dataType = true
      then texts .plain
      else if (m.localField f).label = .repeated then texts .objects else texts .object) =
      texts (request.formOf m f) := by
  have hplain : isPlainType (request.enums.map Enumeration.name) (m.localField f).dataType = true ↔
      ¬ request.IsPointedTo (Package.strip f.dataType m.package) := by
    rw [request.isPointedTo_iff, Bool.not_eq_false]
    rfl
  have hlabel : (m.localField f).label = f.label := rfl
  simp only [hplain, hlabel, Request.formOf]
  split_ifs <;> simp_all

theorem rawReading_localField :
    rawReading (m.localField f) = linesText (readingLines m f .plain) := by
  simp only [rawReading, readingLines, Message.localField, linesText_cons, linesText_nil,
    Text.concat, String.append_assoc, String.append_empty, String.reduceAppend]

theorem listReading_localField :
    listReading (m.localField f) = linesText (readingLines m f .objects) := by
  simp only [listReading, readingLines, Message.localField, linesText_cons, linesText_nil,
    Text.concat, String.append_assoc, String.append_empty]
  simp only [Text.append_literals, String.reduceEq, not_false_eq_true, String.reduceAppend]

theorem messageReading_localField :
    messageReading (m.localField f) = linesText (readingLines m f .object) := by
  simp only [messageReading, readingLines, Message.localField, linesText_cons, linesText_nil,
    Text.concat, String.append_assoc, String.append_empty, String.reduceAppend]

theorem validationBlock_localField :
    validationBlock (request.enums.map Enumeration.name) (m.localField f) =
      linesText (validationLines m f (request.formOf m f)) := by
  have hkey : (m.localField f).key = f.key := rfl
  rw [validationBlock, rawReading_localField, listReading_localField, messageReading_localField,
    form_localField request m f fun form => linesText (readingLines m f form), validationLines,
    hkey]
  simp only [linesText_append, linesText_cons, linesText_nil, Text.concat, String.append_assoc,
    String.append_empty]
  simp only [Text.append_literals, String.reduceEq, not_false_eq_true, String.reduceAppend]

theorem accessorBlock_localField :
    accessorBlock (m.localField f) = linesText (setterLines f ++ getterLines f) := by
  have hname : (m.localField f).name = f.name := rfl
  rw [accessorBlock, hname, setterLines, getterLines]
  simp only [linesText_append, linesText_cons, linesText_nil, Text.concat, String.append_assoc,
    String.append_empty, String.empty_append]
  simp only [Text.append_literals, String.reduceEq, not_false_eq_true, String.reduceAppend]

theorem entryLine_localField :
    entryLine (request.enums.map Enumeration.name) (m.localField f) =
      linesText (entryLines f (request.formOf m f)) := by
  obtain ⟨-, -, hnested, -⟩ := texts_eq
  have hraw : rawEntry (m.localField f) = linesText (entryLines f .plain) := by
    simp only [rawEntry, entryLines, Message.localField, linesText_cons, linesText_nil, Text.concat,
      String.append_assoc, String.append_empty, String.reduceAppend]
  have hlist : listEntry (m.localField f) = linesText (entryLines f .objects) := by
    simp only [listEntry, entryLines, hnested, Message.localField, linesText_cons, linesText_nil,
      Text.concat, String.append_assoc, String.append_empty]
    simp only [Text.append_literals, String.reduceEq, not_false_eq_true, String.reduceAppend]
  have hmessage : messageEntry (m.localField f) = linesText (entryLines f .object) := by
    simp only [messageEntry, entryLines, Message.localField, linesText_cons, linesText_nil,
      Text.concat, String.append_assoc, String.append_empty, String.reduceAppend]
  rw [entryLine, hraw, hlist, hmessage, form_localField request m f fun form => linesText
    (entryLines f form)]

end Fields

theorem messageBlock_flatten (request : Request) (m : Message) :
    messageBlock (request.enums.map Enumeration.name) m.flatten.value =
      linesText (classLines request m) := by
  obtain ⟨-, hconstructor, -⟩ := texts_eq
  have hmembers : m.flatten.value.fields.map declarationLine =
      m.fields.map fun f => memberRow f ++ "\n" := by
    rw [Message.fields_flatten, List.map_map]
    exact List.map_congr_left fun f _ => declarationLine_localField m f
  have hvalidations : m.flatten.value.fields.map
      (validationBlock (request.enums.map Enumeration.name)) =
      m.fields.map fun f => linesText (validationLines m f (request.formOf m f)) := by
    rw [Message.fields_flatten, List.map_map]
    exact List.map_congr_left fun f _ => validationBlock_localField request m f
  have haccessors : m.flatten.value.fields.map accessorBlock =
      m.fields.map fun f => linesText (setterLines f ++ getterLines f) := by
    rw [Message.fields_flatten, List.map_map]
    exact List.map_congr_left fun f _ => accessorBlock_localField m f
  have hentries : m.flatten.value.fields.map (entryLine (request.enums.map Enumeration.name)) =
      m.fields.map fun f => linesText (entryLines f (request.formOf m f)) := by
    rw [Message.fields_flatten, List.map_map]
    exact List.map_congr_left fun f _ => entryLine_localField request m f
  rw [messageBlock, classLines, hmembers, hvalidations, haccessors, hentries, ← linesText_map,
    ← linesText_flatMap, ← linesText_flatMap, ← linesText_flatMap, Message.name_flatten,
    hconstructor]
  simp only [linesText_append, linesText_cons, linesText_nil, Text.concat, String.append_assoc,
    String.append_empty, String.empty_append]
  simp only [Text.append_literals, String.reduceEq, not_false_eq_true, String.reduceAppend]

theorem callBlock_eq (service : String) (m : Method) :
    callBlock service m = linesText (functionLines service m) := by
  rw [callBlock, callUnder, functionLines, Method.path]
  simp only [linesText_cons, linesText_nil, Text.concat, String.append_assoc, String.append_empty,
    String.empty_append]
  simp only [Text.append_literals, String.reduceEq, not_false_eq_true, String.reduceAppend]

theorem clientBlock_eq (s : Service) : clientBlock s = linesText (clientLines s) := by
  obtain ⟨-, -, -, hbody⟩ := texts_eq
  have hcalls : s.methods.map (callBlock s.name) =
      s.methods.map fun m => linesText (functionLines s.name m) :=
    List.map_congr_left fun m _ => callBlock_eq s.name m
  rw [clientBlock, clientClass, clientLines, hcalls, ← linesText_flatMap, hbody]
  simp only [linesText_append, linesText_cons, linesText_nil, Text.concat, String.append_assoc,
    String.append_empty, String.empty_append]
  simp only [Text.append_literals, String.reduceEq, not_false_eq_true, String.reduceAppend]

/-- What is written for a service is written for those that have a name. -/
theorem ofService_eq {request : Request} {service : Option Service}
    (hservice : request.services = service.toList) {text : Service → String}
    {lines : Service → List String} (htext : ∀ s, text s = linesText (lines s)) :
    ofService text service = linesText (request.namedServices.flatMap lines) := by
  rw [Request.namedServices, hservice]
  cases service with
  | none => rfl
  | some s =>
    by_cases hname : s.name = ""
    · simp [ofService, hname, linesText_nil]
    · simp [ofService, hname, htext]

/-- The namespace of a package as lines. -/
theorem linesText_namespaceLines (package : String) :
    (if Package.qualifiedName package = "" then ""
      else Text.concat ["\nnamespace ", Package.qualifiedName package, ";\n"]) =
      linesText (namespaceLines package) := by
  have hsegment := Package.qualifiedName_ne_empty_iff package
  unfold namespaceLines
  by_cases hqualified : Package.qualifiedName package = ""
  · rw [if_pos hqualified, if_neg (hsegment.not.1 (not_not.2 hqualified)), linesText_nil]
  · rw [if_neg hqualified, if_pos (hsegment.1 hqualified), namespaceRow]
    simp only [linesText_cons, linesText_nil, Text.concat, String.append_assoc, String.append_empty,
      String.empty_append]
    simp only [Text.append_literals, String.reduceEq, not_false_eq_true, String.reduceAppend]

theorem clientText_eq {request : Request} {service : Option Service}
    (hservice : request.services = service.toList) :
    clientText (Package.qualifiedName request.packageName) request.enums
      (flattenAll request.messages) service =
      linesText (fileLines request) := by
  obtain ⟨hheading, -⟩ := texts_eq
  have himport : ofService (fun _ => clientImport) service =
      linesText (request.namedServices.map fun _ => clientImportRow) := by
    have hrow : clientImport = linesText [clientImportRow] := by decide +kernel
    rw [List.map_eq_flatMap]
    exact ofService_eq hservice fun _ => hrow
  have henums : request.enums.map enumBlock = request.enums.map fun e => linesText (enumLines e) :=
    List.map_congr_left fun e _ => enumBlock_eq e
  have hmessages : (flattenAll request.messages).map
      (messageBlock (request.enums.map Enumeration.name)) =
      request.messages.map fun m => linesText (classLines request m) := by
    rw [flattenAll, List.map_map]
    exact List.map_congr_left fun m _ => messageBlock_flatten request m
  rw [clientText, clientFrame, linesText_namespaceLines, himport,
    ofService_eq hservice clientBlock_eq, henums, hmessages, ← linesText_flatMap,
    ← linesText_flatMap, hheading, fileLines]
  simp only [linesText_append, linesText_cons, linesText_nil, Text.concat, String.append_assoc,
    String.append_empty, String.empty_append]
  simp only [Text.append_literals, String.reduceEq, not_false_eq_true, String.reduceAppend]

/-! ## What lines tell of a form -/

theorem readingLines_injective (m : Message) (f : Field) :
    Function.Injective (readingLines m f) := by
  intro form other h
  cases form <;> cases other <;> simp_all [readingLines, Text.concat, ← String.toList_inj]

theorem validationLines_injective (m : Message) (f : Field) :
    Function.Injective (validationLines m f) := by
  intro form other h
  exact readingLines_injective m f (List.append_cancel_left h)

theorem entryLines_injective (f : Field) : Function.Injective (entryLines f) := by
  intro form other h
  cases form <;> cases other <;> simp_all [entryLines, Text.concat, ← String.toList_inj]

/-! ## Where a line can stand -/

/-- How lines begin that do not depend on a namespace or a client. -/
def commonStart : List Char → Bool
  | ' ' :: _ :: _ :: _ :: _ :: _ :: c :: _ => c ≠ 'o'
  | 'u' :: _ :: _ :: _ :: c :: _ => c ≠ 'G'
  | c :: _ => c ≠ 'n'
  | [] => true

/-- A line that is not the namespace, not what a client imports and not the member of a client. -/
def IsCommon (line : String) : Prop := commonStart line.toList = true

instance (line : String) : Decidable (IsCommon line) := inferInstanceAs (Decidable (_ = true))

theorem isCommon_append (chars : List Char) (s : String)
    (h : ∀ rest, commonStart (chars ++ rest) = true) :
    IsCommon (String.ofList chars ++ s) := by
  simpa [IsCommon] using h s.toList

theorem isCommon_concat (chars : List Char) (texts : List String)
    (h : ∀ rest, commonStart (chars ++ rest) = true) :
    IsCommon (Text.concat (String.ofList chars :: texts)) :=
  isCommon_append chars _ h

theorem isCommon_ofList (chars : List Char) (h : commonStart chars = true) :
    IsCommon (String.ofList chars) := by
  simpa [IsCommon] using h

theorem isCommon_enumLines (e : Enumeration) : ∀ line ∈ enumLines e, IsCommon line := by
  simp only [enumLines, List.forall_mem_append, List.forall_mem_cons, List.forall_mem_map,
    List.not_mem_nil, false_imp_iff, implies_true, and_true, and_assoc]
  exact ⟨isCommon_ofList _ rfl, isCommon_append _ _ fun _ => rfl, isCommon_ofList _ rfl,
    fun v _ => isCommon_concat _ _ fun _ => rfl, isCommon_ofList _ rfl⟩

theorem isCommon_validationLines (m : Message) (f : Field) (form : Form) :
    ∀ line ∈ validationLines m f form, IsCommon line := by
  have hreading : ∀ line ∈ readingLines m f form, IsCommon line := by
    cases form with
    | plain => exact List.forall_mem_singleton.2 (isCommon_concat _ _ fun _ => rfl)
    | objects =>
      simp only [readingLines, List.forall_mem_cons, List.not_mem_nil, false_imp_iff,
        implies_true, and_true]
      exact ⟨isCommon_concat _ _ fun _ => rfl, isCommon_concat _ _ fun _ => rfl,
        isCommon_concat _ _ fun _ => rfl⟩
    | object => exact List.forall_mem_singleton.2 (isCommon_concat _ _ fun _ => rfl)
  simp only [validationLines, List.forall_mem_append, List.forall_mem_cons, List.not_mem_nil,
    false_imp_iff, implies_true, and_true, and_assoc]
  exact ⟨isCommon_concat _ _ fun _ => rfl, isCommon_concat _ _ fun _ => rfl,
    isCommon_ofList _ rfl, hreading⟩

theorem isCommon_accessorLines (f : Field) :
    ∀ line ∈ setterLines f ++ getterLines f, IsCommon line := by
  simp only [setterLines, getterLines, List.forall_mem_append, List.forall_mem_cons,
    List.not_mem_nil, false_imp_iff, implies_true, and_true, and_assoc]
  exact ⟨isCommon_ofList _ rfl, isCommon_concat _ _ fun _ => rfl, isCommon_ofList _ rfl,
    isCommon_concat _ _ fun _ => rfl, isCommon_ofList _ rfl, isCommon_ofList _ rfl,
    isCommon_concat _ _ fun _ => rfl, isCommon_ofList _ rfl, isCommon_concat _ _ fun _ => rfl,
    isCommon_ofList _ rfl⟩

theorem isCommon_entryLines (f : Field) (form : Form) :
    ∀ line ∈ entryLines f form, IsCommon line := by
  cases form with
  | plain => exact List.forall_mem_singleton.2 (isCommon_concat _ _ fun _ => rfl)
  | objects =>
    simp only [entryLines, List.forall_mem_cons, List.not_mem_nil, false_imp_iff,
      implies_true, and_true]
    exact ⟨isCommon_concat _ _ fun _ => rfl, isCommon_ofList _ rfl,
      isCommon_concat _ _ fun _ => rfl⟩
  | object => exact List.forall_mem_singleton.2 (isCommon_concat _ _ fun _ => rfl)

theorem isCommon_classLines (request : Request) (m : Message) :
    ∀ line ∈ classLines request m, IsCommon line := by
  have hconstructor : ∀ line ∈ constructorLines, IsCommon line := by
    simp only [constructorLines, List.forall_mem_cons, List.not_mem_nil, false_imp_iff,
      implies_true, and_true]
    and_intros <;> exact isCommon_ofList _ rfl
  simp only [classLines, List.forall_mem_append, List.forall_mem_cons, List.forall_mem_map,
    List.forall_mem_flatMap, List.not_mem_nil, false_imp_iff, implies_true, and_true, and_assoc]
  exact ⟨isCommon_ofList _ rfl, isCommon_append _ _ fun _ => rfl, isCommon_ofList _ rfl,
    fun f _ => isCommon_concat _ _ fun _ => rfl, hconstructor,
    fun f _ => isCommon_validationLines m f _, isCommon_ofList _ rfl,
    fun f _ => List.forall_mem_append.1 (isCommon_accessorLines f), isCommon_ofList _ rfl,
    isCommon_ofList _ rfl, isCommon_ofList _ rfl, isCommon_ofList _ rfl,
    fun f _ => isCommon_entryLines f _, isCommon_ofList _ rfl, isCommon_ofList _ rfl,
    isCommon_ofList _ rfl⟩

/-- Of the lines of a client only its member is a line of its own. -/
theorem isCommon_clientLines (s : Service) :
    ∀ line ∈ clientLines s, line ≠ clientMemberRow → IsCommon line := by
  have hbody : ∀ line ∈ clientBodyLines, line ≠ clientMemberRow → IsCommon line := by
    simp only [clientBodyLines, List.forall_mem_cons, List.not_mem_nil, false_imp_iff, implies_true,
      and_true, ne_eq, not_true_eq_false, true_and]
    and_intros <;> exact fun _ => isCommon_ofList _ rfl
  have hfunction (m : Method) : ∀ line ∈ functionLines s.name m, IsCommon line := by
    simp only [functionLines, List.forall_mem_cons, List.not_mem_nil, false_imp_iff,
      implies_true, and_true]
    exact ⟨isCommon_ofList _ rfl, isCommon_concat _ _ fun _ => rfl, isCommon_ofList _ rfl,
      isCommon_concat _ _ fun _ => rfl, isCommon_ofList _ rfl⟩
  simp only [clientLines, List.forall_mem_append, List.forall_mem_cons, List.forall_mem_flatMap,
    List.not_mem_nil, false_imp_iff, implies_true, and_true, and_assoc]
  exact ⟨fun _ => isCommon_ofList _ rfl, fun _ => isCommon_append _ _ fun _ => rfl, hbody,
    fun m _ line hline _ => hfunction m line hline, fun _ => isCommon_ofList _ rfl⟩

section Occurrences

variable {row : String} (hrow : ¬ IsCommon row)

include hrow

/-- A line of its own stands in a client only as the member. -/
theorem mem_clientLines_iff (s : Service) : row ∈ clientLines s ↔ row = clientMemberRow := by
  constructor
  · intro hline
    exact Decidable.not_not.1 fun hother => hrow (isCommon_clientLines s row hline hother)
  · rintro rfl
    simp [clientLines, clientBodyLines]

theorem not_mem_of_isCommon {lines : List String} (h : ∀ line ∈ lines, IsCommon line) :
    row ∉ lines :=
  fun hline => hrow (h row hline)

/-- A line of its own is the namespace, or stands where the file has something for a client. -/
theorem mem_fileLines_iff (request : Request) :
    row ∈ fileLines request ↔ row ∈ namespaceLines request.packageName ∨
      (row = clientImportRow ∨ row = clientMemberRow) ∧ ∃ s ∈ request.services, s.name ≠ "" := by
  have hheading : row ∉ headingLines := not_mem_of_isCommon hrow (by decide +kernel)
  have huse : row ∉ ["", "use Exception;"] := not_mem_of_isCommon hrow (by decide +kernel)
  have henums : row ∉ request.enums.flatMap enumLines :=
    not_mem_of_isCommon hrow (List.forall_mem_flatMap.2 fun e _ => isCommon_enumLines e)
  have hclasses : row ∉ request.messages.flatMap (classLines request) :=
    not_mem_of_isCommon hrow (List.forall_mem_flatMap.2 fun m _ => isCommon_classLines request m)
  have himport : row ∈ request.namedServices.map (fun _ => clientImportRow) ↔
      row = clientImportRow ∧ ∃ s ∈ request.services, s.name ≠ "" := by
    constructor
    · intro h
      obtain ⟨s, hs, rfl⟩ := List.mem_map.1 h
      exact ⟨rfl, s, Request.mem_namedServices.1 hs⟩
    · rintro ⟨rfl, s, hs⟩
      exact List.mem_map.2 ⟨s, Request.mem_namedServices.2 hs, rfl⟩
  have hclients : row ∈ request.namedServices.flatMap clientLines ↔
      row = clientMemberRow ∧ ∃ s ∈ request.services, s.name ≠ "" := by
    constructor
    · intro h
      obtain ⟨s, hs, hline⟩ := List.mem_flatMap.1 h
      exact ⟨(mem_clientLines_iff hrow s).1 hline, s, Request.mem_namedServices.1 hs⟩
    · rintro ⟨hmember, s, hs⟩
      exact List.mem_flatMap.2 ⟨s, Request.mem_namedServices.2 hs,
        (mem_clientLines_iff hrow s).2 hmember⟩
  simp only [fileLines, List.mem_append, hheading, huse, henums, hclasses, himport, hclients,
    false_or, or_false, or_assoc, or_and_right]

end Occurrences

theorem namespaceRow_ne (package : String) :
    namespaceRow package ≠ clientImportRow ∧ namespaceRow package ≠ clientMemberRow ∧
      namespaceRow package ≠ "" := by
  simp [namespaceRow, clientImportRow, clientMemberRow, ← String.toList_inj]

theorem not_isCommon_namespaceRow (package : String) : ¬ IsCommon (namespaceRow package) := by
  simp [IsCommon, namespaceRow, commonStart]

theorem namespaceRow_mem_iff (request : Request) :
    namespaceRow request.packageName ∈ fileLines request ↔
      ∃ segment ∈ Text.segments '.' request.packageName, segment ≠ "" := by
  obtain ⟨himport, hmember, hempty⟩ := namespaceRow_ne request.packageName
  rw [mem_fileLines_iff (not_isCommon_namespaceRow _), namespaceLines]
  simp only [himport, hmember, or_false, false_and]
  split
  · rename_i hsegment
    simp [hsegment]
  · rename_i hsegment
    simp [hsegment]

/-- What a file has for a client is there just for a service with a name. -/
theorem clientRow_mem_iff {row : String} (h : row = clientImportRow ∨ row = clientMemberRow)
    (request : Request) : row ∈ fileLines request ↔ ∃ s ∈ request.services, s.name ≠ "" := by
  have hrow : ¬ IsCommon row := by
    rcases h with rfl | rfl <;> decide +kernel
  obtain ⟨himport, hmember, -⟩ := namespaceRow_ne request.packageName
  have hempty : row ≠ "" := by
    rcases h with rfl | rfl <;> decide
  have hnamespace : row ∉ namespaceLines request.packageName := by
    unfold namespaceLines
    split
    · rcases h with rfl | rfl <;> simp [hempty, himport.symm, hmember.symm]
    · exact List.not_mem_nil
  rw [mem_fileLines_iff hrow]
  simp only [hnamespace, h, true_and, false_or]

end Php

/-! ## A run -/

/-- A run for PHP always ends with one file.  Its classes go through the fields of a message in
order, and the two places where a field is read and written agree on its form.  There is a namespace
just for a package with a segment that is not empty, and a client just for a service with a name,
with a function for every method. -/
theorem php_file_text {request : Request} (hservices : request.services.length ≤ 1) :
    ∃ files, (Generator.standard .builtin).generate "php" request = .ok files ∧
      files.toList = [(request.baseNameOf request.services.head? ++ ".php",
        Asset.linesText (Php.fileLines request))] ∧
      (∀ m ∈ request.messages, ∀ f ∈ m.fields, ∀ form,
        (Php.validationLines m f form = Php.validationLines m f (request.formOf m f) ↔
          request.HasForm m f form) ∧
        (Php.entryLines f form = Php.entryLines f (request.formOf m f) ↔
          request.HasForm m f form)) ∧
      (Php.namespaceRow request.packageName ∈ Php.fileLines request ↔
        ∃ segment ∈ Text.segments '.' request.packageName, segment ≠ "") ∧
      (Php.clientImportRow ∈ Php.fileLines request ↔ ∃ s ∈ request.services, s.name ≠ "") ∧
      (Php.clientMemberRow ∈ Php.fileLines request ↔ ∃ s ∈ request.services, s.name ≠ "") ∧
      ∀ s ∈ request.services, s.name ≠ "" → Php.clientLines s <:+ Php.fileLines request := by
  have hservice := services_eq_toList_head? hservices
  obtain ⟨files, hfiles, -⟩ :=
    generate_of_nodup php_mem_standardBackends hservice (List.nodup_singleton _)
  have hrun := generate_builtin_of_found (find_standard php_mem_standardBackends) hservice
  refine ⟨files, hfiles, ?_, fun m _ f _ form => ⟨?_, ?_⟩, Php.namespaceRow_mem_iff request,
    Php.clientRow_mem_iff (.inl rfl) request, Php.clientRow_mem_iff (.inr rfl) request,
    fun s hs hname => ?_⟩
  · have hperm := OutputFiles.perm_toList_addAll (hrun.symm.trans hfiles)
    rw [← Php.clientText_eq hservice]
    exact List.perm_singleton.1 hperm
  · rw [request.hasForm_iff, (Php.validationLines_injective m f).eq_iff]
  · rw [request.hasForm_iff, (Php.entryLines_injective f).eq_iff]
  · have hnamed : request.namedServices = [s] := by
      rw [hservice, Option.mem_toList] at hs
      rw [Request.namedServices, hservice, hs]
      simp [hname]
    rw [Php.fileLines, hnamed, List.flatMap_singleton]
    exact List.suffix_append _ _

/-- A loan has books, a state and a reader, of which only the state is no object. -/
def loan : Message :=
  ⟨"Loan", [
    ⟨"books", "loan_books", ".com.library.Book", .repeated, "", SortedMap.empty⟩,
    Field.ofType "state" "com.library.State",
    Field.ofType "reader" "Reader"], .optional, "com.library"⟩

/-- Loans are looked up and given out.  The package has a segment that is empty. -/
def loanDesk : Request :=
  { Request.empty with
    packageName := "com..library"
    services := [⟨"Loans", [
      ⟨"find", "Query", "Loan", SortedMap.ofList [("service_method", "GET")]⟩,
      ⟨"lend", "Loan", "Receipt", SortedMap.empty⟩], SortedMap.empty⟩]
    messages := [loan]
    enums := [⟨"State", [⟨"OUT", 0⟩, ⟨"BACK", 1⟩]⟩] }

theorem php_file_text_loans :
    loanDesk.services.length ≤ 1 ∧
    ∃ files, (Generator.standard .builtin).generate "php" loanDesk = .ok files ∧
      files.toList = [("Loans.php", Asset.linesText (Php.fileLines loanDesk))] ∧
      (∀ m ∈ loanDesk.messages, m.fields.map (loanDesk.formOf m) = [.objects, .plain, .object] ∧
        m.fields.flatMap (fun f => Php.entryLines f (loanDesk.formOf m f)) = [
          "            \"loan_books\" => array_map(function ($item) \x7b",
          "                return $item->to_array();",
          "            \x7d, $this->books),",
          "            \"state\" => $this->state,",
          "            \"reader\" => $this->reader->to_array(),"]) ∧
      "namespace Com\\Library;" ∈ Php.fileLines loanDesk ∧
      ∀ s ∈ loanDesk.services, Php.clientLines s <:+ Php.fileLines loanDesk ∧
        s.methods.flatMap (Php.functionLines s.name) = [
          "",
          "    public function find(Query $req)",
          "    \x7b",
          "        return $this->callApi($req, \"GET\", \"/Loans.find\", __NAMESPACE__ . " ++
            "\"\\\\Loan\");",
          "    \x7d",
          "",
          "    public function lend(Loan $req)",
          "    \x7b",
          "        return $this->callApi($req, \"POST\", \"/Loans.lend\", __NAMESPACE__ . " ++
            "\"\\\\Receipt\");",
          "    \x7d"] := by
  have hservices : loanDesk.services.length ≤ 1 := by decide
  obtain ⟨files, hrun, htext, -, hnamespace, -, -, hclient⟩ := php_file_text hservices
  have hrow : Php.namespaceRow loanDesk.packageName = "namespace Com\\Library;" := by decide +kernel
  have hsegment : ∃ segment ∈ Text.segments '.' loanDesk.packageName, segment ≠ "" := by
    decide +kernel
  refine ⟨hservices, files, hrun, htext, ?_, hrow ▸ hnamespace.2 hsegment, fun s hs => ⟨?_, ?_⟩⟩
  · decide +kernel
  · obtain rfl := List.mem_singleton.1 hs
    exact hclient _ hs (by decide)
  · obtain rfl := List.mem_singleton.1 hs
    decide +kernel

end ApiStubs
