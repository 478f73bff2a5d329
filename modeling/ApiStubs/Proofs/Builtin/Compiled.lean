import ApiStubs.Proofs.Template.Recognition

/-!
# The built-in templates, compiled

The tree of every built-in template, with names for the bodies of its loops and for its longer
texts.  That a source compiles to its tree is checked by computing.
-/

namespace ApiStubs

namespace Template

/-- Whether `field` holds a list. -/
def repeatedField : Expr := .is "field" "label" "LABEL_REPEATED"

/-- Whether the type of `field` is a scalar. -/
def scalarField : Expr := .test (.dot "field" "data_type") "scalar" []

end Template

open Template

/-! ## Go -/

namespace Go

/-- What a file starts with, up to the name of its package. -/
def heading : String := "// Code generated by protoapi; DO NOT EDIT.\n\npackage "

/-- The imports of the server, up to the name of the service. -/
def serverImports : String :=
  "\n\nimport (\n\t\"net/http\"\n\n\t\"github.com/labstack/echo\"\n)\n\n// "

/-- The end of the interface and the types of a response. -/
def envelope : String :=
  "\x7d\n\ntype ErrorInternal struct \x7b\n\tCode    int32       `json:\"code\"`\n" ++
  "\tMessage string      `json:\"message\"`\n" ++
  "\tDetails interface\x7b\x7d `json:\"details\"`\n\x7d\n\n" ++
  "type ResponseInternal struct \x7b\n\tResponse interface\x7b\x7d    `json:\"response\"`\n" ++
  "\tError    *ErrorInternal `json:\"error\"`\n\x7d\n"

/-- How a handler reads its input. -/
def handlerBinding : String :=
  ")\n\n\t\tif err = c.Bind(in); err != nil \x7b\n\t\t\tresp := ResponseInternal\x7b\n" ++
  "\t\t\t\tError: &ErrorInternal\x7bCode: 1000, Message: err.Error()\x7d,\n\t\t\t\x7d\n" ++
  "\t\t\treturn c.JSON(http.StatusBadRequest, resp)\n\t\t\x7d\n\n"

/-- How a handler answers with the error of a call. -/
def handlerFailure : String :=
  "(in)\n\t\tif callErr != nil \x7b\n\t\t\tresp := ResponseInternal\x7b\n" ++
  "\t\t\t\tError: &ErrorInternal\x7bDetails: callErr\x7d,\n\t\t\t\x7d\n" ++
  "\t\t\treturn c.JSON(http.StatusOK, resp)\n\t\t\x7d\n"

/-- How a handler answers with the output of a call. -/
def handlerEnd : String :=
  "\n\t\tresp := ResponseInternal\x7b\n\t\t\tResponse: out,\n\t\t\x7d\n" ++
  "\t\treturn c.JSON(http.StatusOK, resp)\n\t\x7d\n\x7d\n"

namespace Tree

/-- The line of a constant. -/
def constant : List Stmt := [
  .say "\t", .put "value" "name", .say " ", .put "enum" "name", .say " = ", .put "value" "value",
  .say "\n"]

/-- The line that gives a constant its name as a text. -/
def label : List Stmt := [
  .say "\t\t", .put "value" "name", .say ": \"", .put "value" "name", .say "\",\n"]

/-- The declarations of an enumeration. -/
def enumeration : List Stmt := [
  .say "\ntype ", .put "enum" "name", .say " int\n\nconst (\n",
  .forEach "value" (.dot "enum" "fields") constant,
  .say ")\n\nfunc (code ", .put "enum" "name",
  .say ") String() string \x7b\n\tnames := map[", .put "enum" "name", .say "]string\x7b\n",
  .forEach "value" (.dot "enum" "fields") label,
  .say "\t\x7d\n\n\treturn names[code]\n\x7d\n"]

/-- The line of a field. -/
def field : List Stmt := [
  .say "\t", .print (.filter (.dot "field" "name") "upper_first" []), .say " ",
  .when repeatedField [.say "[]"],
  .when (.and (.not scalarField)
    (.compare (.dot "field" "data_type") [(.notContained, .name "enum_names")])) [.say "*"],
  .print (.filter (.dot "field" "data_type") "target_type" []),
  .say " `json:\"", .put "field" "key", .say "\" form:\"", .put "field" "key",
  .say "\" query:\"", .put "field" "key", .say "\"`\n"]

/-- The struct of a message. -/
def message : List Stmt := [
  .say "\n// ", .put "message" "name", .say "\ntype ", .put "message" "name", .say " struct \x7b\n",
  .forEach "field" (.dot "message" "fields") field,
  .say "\x7d\n"]

/-- The file of types. -/
def types : List Stmt := [
  .say heading, .print (.name "package"), .say "\n",
  .forEach "enum" (.name "enums") enumeration,
  .forEach "message" (.name "messages") message]

/-- The second result of a method with an error type. -/
def errorResult : List Stmt := [.say ", *", .put "method" "error_type"]

/-- The line of a method in the interface. -/
def signature : List Stmt := [
  .say "\t", .put "method" "title", .say "(*", .put "method" "input_type",
  .say ") (*", .put "method" "output_type",
  .when (.dot "method" "error_type") errorResult,
  .say ")\n"]

/-- How a handler calls a method with an error type. -/
def failingCall : List Stmt := [
  .say "\t\tout, callErr := srv.", .put "method" "title", .say handlerFailure]

/-- How a handler calls a method without an error type. -/
def plainCall : List Stmt := [.say "\t\tout := srv.", .put "method" "title", .say "(in)\n"]

/-- The handler of a method. -/
def handler : List Stmt := [
  .say "\nfunc _", .put "method" "name", .say "_Handler(srv ", .print (.name "name"),
  .say ") echo.HandlerFunc \x7b\n\treturn func(c echo.Context) (err error) \x7b\n\t\tin := new(",
  .put "method" "input_type",
  .say handlerBinding,
  .branch (.dot "method" "error_type") failingCall plainCall,
  .say handlerEnd]

/-- The line that binds the path of a method under a verb. -/
def route (verb : String) : List Stmt := [
  .say ("\te." ++ verb ++ "(\""), .put "method" "path", .say "\", _", .put "method" "name",
  .say "_Handler(srv))\n"]

/-- The routes of a method. -/
def routes : List Stmt := [
  .when (.isNot "method" "service_type" "POST") (route "GET"),
  .when (.isNot "method" "service_type" "GET") (route "POST")]

/-- The file of the server. -/
def server : List Stmt := [
  .say heading, .print (.name "package"),
  .say serverImports, .print (.name "name"),
  .say " is the interface implemented by the service controllers\ntype ", .print (.name "name"),
  .say " interface \x7b\n",
  .forEach "method" (.name "methods") signature,
  .say envelope,
  .forEach "method" (.name "methods") handler,
  .say "\n// Register", .print (.name "name"), .say " binds the service routes\nfunc Register",
  .print (.name "name"), .say "(e *echo.Echo, srv ", .print (.name "name"), .say ") \x7b\n",
  .forEach "method" (.name "methods") routes,
  .say "\x7d\n"]

end Tree

theorem compilesTo_trees :
    compilesTo Asset.Builtin.Go.types Tree.types = true ∧
    compilesTo Asset.Builtin.Go.server Tree.server = true := by
  decide +kernel

theorem parse_types :
    parse (Asset.linesText Asset.Builtin.Go.types).toList = .ok Tree.types :=
  parse_of_compilesTo compilesTo_trees.1

theorem parse_server :
    parse (Asset.linesText Asset.Builtin.Go.server).toList = .ok Tree.server :=
  parse_of_compilesTo compilesTo_trees.2

end Go

/-! ## Java -/

namespace Java

/-- The line that a file starts with. -/
def heading : String := "// Code generated by protoapi; DO NOT EDIT.\n"

/-- The imports of an enumeration, up to its name. -/
def enumImports : String :=
  "\nimport com.fasterxml.jackson.annotation.JsonValue;\n\npublic enum "

/-- How an enumeration gives out its value. -/
def enumEnd : String :=
  "(int value) \x7b\n        this.value = value;\n    \x7d\n\n    @JsonValue\n" ++
  "    public int getValue() \x7b\n        return value;\n    \x7d\n\x7d\n"

/-- The imports of a controller, up to the name of the service. -/
def controllerImports : String :=
  "\nimport org.springframework.web.bind.annotation.GetMapping;\n" ++
  "import org.springframework.web.bind.annotation.PostMapping;\n" ++
  "import org.springframework.web.bind.annotation.RequestBody;\n" ++
  "import org.springframework.web.bind.annotation.ResponseBody;\n\npublic abstract class "

/-- The imports of a message. -/
def messageImports : String :=
  "\nimport com.fasterxml.jackson.annotation.JsonCreator;\n" ++
  "import com.fasterxml.jackson.annotation.JsonProperty;\n"

namespace Tree

/-- The line that names the package. -/
def packageClause : Stmt :=
  .when (.name "package") [.say "\npackage ", .print (.name "package"), .say ";\n"]

/-- The line of a constant. -/
def constant : List Stmt := [
  .say "    ", .put "value" "name", .say "(", .put "value" "value", .say ")",
  .branch (.dot "loop" "last") [.say ";"] [.say ","],
  .say "\n"]

/-- The file of an enumeration. -/
def enumeration : List Stmt := [
  .say heading, packageClause, .say enumImports, .put "enum_data" "name", .say " \x7b\n",
  .when (.not (.dot "enum_data" "fields")) [.say "    ;\n"],
  .forEach "value" (.dot "enum_data" "fields") constant,
  .say "\n    private final int value;\n\n    ", .put "enum_data" "name", .say enumEnd]

/-- The method that a controller maps to a path by a mapping, with what stands before its input. -/
def mapped (mapping input : String) : List Stmt := [
  .say ("\n    @" ++ mapping ++ "(\""), .put "method" "path",
  .say "\")\n    @ResponseBody\n    public ", .put "method" "output_type", .say " ",
  .put "method" "name", .say input, .put "method" "input_type", .say " in) \x7b\n        return ",
  .put "method" "name", .say "(in);\n    \x7d\n"]

/-- The methods that a controller has for a method. -/
def mapping : List Stmt := [
  .when (.isNot "method" "service_type" "GET") (mapped "PostMapping" "Post(@RequestBody "),
  .when (.isNot "method" "service_type" "POST") (mapped "GetMapping" "Get("),
  .say "\n    abstract ", .put "method" "output_type", .say " ", .put "method" "name", .say "(",
  .put "method" "input_type", .say " in);\n"]

/-- The file of a controller. -/
def controller : List Stmt := [
  .say heading, packageClause, .say controllerImports, .print (.name "name"), .say "Base \x7b\n",
  .forEach "method" (.name "methods") mapping,
  .say "\x7d\n"]

/-- What the macro `java_type` writes for a field. -/
def typeBody : List Stmt := [
  .branch repeatedField
    [.say "List<", .print (.filter (.dot "field" "data_type") "target_type" []), .say ">"]
    [.print (.filter (.dot "field" "data_type") "target_type" [])]]

/-- Print the type of a field. -/
def fieldType : Stmt := .print (.call (.name "java_type") [.name "field"])

/-- The line that declares a field. -/
def declaration : List Stmt := [
  .say "    private final ", fieldType, .say " ", .put "field" "name", .say ";\n"]

/-- The parameter of the constructor for a field. -/
def parameter : List Stmt := [
  .say "            @JsonProperty(\"", .put "field" "key", .say "\") ", fieldType, .say " ",
  .put "field" "name", .when (.not (.dot "loop" "last")) [.say ","], .say "\n"]

/-- The line that sets a field. -/
def assignment : List Stmt := [
  .say "        this.", .put "field" "name", .say " = ", .put "field" "name", .say ";\n"]

/-- The method that gives out a field. -/
def getter : List Stmt := [
  .say "\n    public ", fieldType, .say " get",
  .print (.filter (.dot "field" "name") "upper_first" []),
  .say "() \x7b\n        return ", .put "field" "name", .say ";\n    \x7d\n"]

/-- The file of a message. -/
def message : List Stmt := [
  .define "java_type" [⟨"field", none⟩] typeBody,
  .say heading, packageClause, .say messageImports,
  .when (.name "uses_list") [.say "\nimport java.util.List;\n"],
  .say "\npublic class ", .put "message" "name", .say " \x7b\n",
  .forEach "field" (.dot "message" "fields") declaration,
  .say "\n    @JsonCreator\n    public ", .put "message" "name", .say "(\n",
  .forEach "field" (.dot "message" "fields") parameter,
  .say "    ) \x7b\n",
  .forEach "field" (.dot "message" "fields") assignment,
  .say "    \x7d\n",
  .forEach "field" (.dot "message" "fields") getter,
  .say "\x7d\n"]

end Tree

theorem compilesTo_trees :
    compilesTo Asset.Builtin.Java.enumeration Tree.enumeration = true ∧
    compilesTo Asset.Builtin.Java.controller Tree.controller = true ∧
    compilesTo Asset.Builtin.Java.message Tree.message = true := by
  decide +kernel

theorem parse_enumeration :
    parse (Asset.linesText Asset.Builtin.Java.enumeration).toList = .ok Tree.enumeration :=
  parse_of_compilesTo compilesTo_trees.1

theorem parse_controller :
    parse (Asset.linesText Asset.Builtin.Java.controller).toList = .ok Tree.controller :=
  parse_of_compilesTo compilesTo_trees.2.1

theorem parse_message :
    parse (Asset.linesText Asset.Builtin.Java.message).toList = .ok Tree.message :=
  parse_of_compilesTo compilesTo_trees.2.2

end Java

/-! ## PHP -/

namespace Php

/-- What the file starts with. -/
def heading : String := "<?php\n/**\n * This file is generated by protoapi.\n * DO NOT EDIT.\n */\n"

/-- The constructor of a message and the head of its validation. -/
def constructor : String :=
  "\n    public function __construct(array $response = [])\n    \x7b\n" ++
  "        if ($response) \x7b\n" ++
  "            $this->validate($response);\n        \x7d\n    \x7d\n\n" ++
  "    public function validate(array $response)\n    \x7b\n"

/-- How the entry of a list of messages starts, up to the name of its field. -/
def nestedArrays : String :=
  "\" => array_map(function ($item) \x7b\n                return $item->to_array();\n" ++
  "            \x7d, $this->"

/-- The client class without its methods. -/
def clientBody : String :=
  "\n\x7b\n    protected $httpClient;\n\n" ++
  "    public function __construct($baseUri = '127.0.0.1:8080')\n    \x7b\n" ++
  "        $this->httpClient = new HttpClient(\n            [\n" ++
  "                'base_uri' => $baseUri,\n                'timeout' => 30,\n            ]\n" ++
  "        );\n    \x7d\n\n" ++
  "    private function callApi($req, $method, $uri, $outputName)\n    \x7b\n" ++
  "        $data = [\n            'json' => $req->to_array(),\n        ];\n" ++
  "        $response = $this->httpClient->request($method, $uri, $data);\n" ++
  "        $rawContent = $response->getBody()->getContents();\n\n" ++
  "        $content = json_decode($rawContent, true);\n" ++
  "        if (isset($content[\"error\"])) \x7b\n" ++
  "            throw new Exception($content[\"error\"][\"message\"]);\n        \x7d\n" ++
  "        if (isset($content[\"response\"])) \x7b\n            $result = new $outputName();\n" ++
  "            $result->validate($content[\"response\"]);\n" ++
  "            return $result;\n        \x7d\n" ++
  "        throw new Exception(\"Cannot find response body: \" . $rawContent);\n    \x7d\n"

namespace Tree

/-- Whether `field` is passed on as it is: its type is a scalar or an enumeration. -/
def rawField : Expr :=
  .or scalarField (.compare (.dot "field" "data_type") [(.contained, .name "enum_names")])

/-- The line of a constant. -/
def constant : List Stmt := [
  .say "    const ", .put "value" "name", .say " = ", .put "value" "value", .say ";\n"]

/-- The class of an enumeration. -/
def enumeration : List Stmt := [
  .say "\nfinal class ", .put "enum" "name", .say "\n\x7b\n",
  .forEach "value" (.dot "enum" "fields") constant,
  .say "\x7d\n"]

/-- The line that declares a field. -/
def declaration : List Stmt := [.say "    private $", .put "field" "name", .say ";\n"]

/-- How a field that is passed on as it is is read. -/
def rawReading : List Stmt := [
  .say "        $this->", .put "field" "name", .say " = $response[\"", .put "field" "key",
  .say "\"];\n"]

/-- How a list of messages is read. -/
def listReading : List Stmt := [
  .say "        $this->", .put "field" "name",
  .say " = array_map(function ($item) \x7b\n            return new ", .put "field" "data_type",
  .say "($item);\n        \x7d, $response[\"", .put "field" "key", .say "\"]);\n"]

/-- How a message is read. -/
def messageReading : List Stmt := [
  .say "        $this->", .put "field" "name", .say " = new ", .put "field" "data_type",
  .say "($response[\"", .put "field" "key", .say "\"]);\n"]

/-- How a field is read from a response. -/
def validation : List Stmt := [
  .say "        if (!isset($response[\"", .put "field" "key",
  .say "\"])) \x7b\n            throw new Exception(\"'", .put "field" "key",
  .say "' does not exist\");\n        \x7d\n",
  .branch rawField rawReading [.branch repeatedField listReading messageReading]]

/-- The methods that set and give out a field. -/
def accessors : List Stmt := [
  .say "\n    public function set_", .put "field" "name", .say "($", .put "field" "name",
  .say ")\n    \x7b\n        $this->", .put "field" "name", .say " = $", .put "field" "name",
  .say ";\n    \x7d\n\n    public function get_", .put "field" "name",
  .say "()\n    \x7b\n        return $this->", .put "field" "name", .say ";\n    \x7d\n"]

/-- The entry of a field that is passed on as it is. -/
def rawEntry : List Stmt := [
  .say "            \"", .put "field" "key", .say "\" => $this->", .put "field" "name", .say ",\n"]

/-- The entry of a list of messages. -/
def listEntry : List Stmt := [
  .say "            \"", .put "field" "key", .say nestedArrays, .put "field" "name", .say "),\n"]

/-- The entry of a message. -/
def messageEntry : List Stmt := [
  .say "            \"", .put "field" "key", .say "\" => $this->", .put "field" "name",
  .say "->to_array(),\n"]

/-- The entry of a field in the array of a message. -/
def entry : List Stmt := [
  .branch rawField rawEntry [.branch repeatedField listEntry messageEntry]]

/-- The class of a message. -/
def message : List Stmt := [
  .say "\nclass ", .put "message" "name", .say "\n\x7b\n",
  .forEach "field" (.dot "message" "fields") declaration,
  .say constructor,
  .forEach "field" (.dot "message" "fields") validation,
  .say "    \x7d\n",
  .forEach "field" (.dot "message" "fields") accessors,
  .say "\n    public function to_array()\n    \x7b\n        return [\n",
  .forEach "field" (.dot "message" "fields") entry,
  .say "        ];\n    \x7d\n\x7d\n"]

/-- The method of the client for a method. -/
def call : List Stmt := [
  .say "\n    public function ", .put "method" "name", .say "(", .put "method" "input_type",
  .say " $req)\n    \x7b\n        return $this->callApi($req, \"", .put "method" "service_type",
  .say "\", \"", .put "method" "path", .say "\", __NAMESPACE__ . \"\\\\",
  .put "method" "output_type", .say "\");\n    \x7d\n"]

/-- The client class. -/
def clientClass : List Stmt := [
  .say "\nclass ", .print (.name "service"), .say clientBody,
  .forEach "method" (.name "methods") call,
  .say "\x7d\n"]

/-- The file. -/
def client : List Stmt := [
  .say heading,
  .when (.name "namespace") [.say "\nnamespace ", .print (.name "namespace"), .say ";\n"],
  .say "\nuse Exception;\n",
  .when (.name "service") [.say "use GuzzleHttp\\Client as HttpClient;\n"],
  .forEach "enum" (.name "enums") enumeration,
  .forEach "message" (.name "messages") message,
  .when (.name "service") clientClass]

end Tree

theorem parse_client :
    parse (Asset.linesText Asset.Builtin.Php.client).toList = .ok Tree.client :=
  parse_of_compilesTo (by decide +kernel)

end Php

/-! ## TypeScript -/

namespace Typescript

/-- What the file of types starts with. -/
def heading : String :=
  "/**\n * This file is generated by 'protoapi'\n" ++
  " * It contains the data structures used by the generated TypeScript client.\n" ++
  " * DO NOT EDIT.\n */\n"

/-- What the type of error shapes starts with, up to its name. -/
def unionHeading : String :=
  "\n/** Error shapes a service call may reject with, told apart by `kind`. */\nexport type "

/-- What a client starts with, up to the name of the service. -/
def clientHeading : String :=
  "/**\n * This file is generated by 'protoapi'\n * It contains client code for "

/-- What the client on axios says of itself. -/
def axiosPurpose : String :=
  " built on the 'axios' library,\n * which must be installed in the project.\n" ++
  " * DO NOT EDIT.\n */\nimport axios from 'axios';\n"

/-- What the client on axios shares between its functions. -/
def axiosPrologue : String :=
  "';\nimport \x7b generateUrl \x7d from './helper';\n\n" ++
  "let baseUrl = \"http://localhost:8080\";\n\n" ++
  "export function setBaseUrl(url: string) \x7b\n    baseUrl = url;\n\x7d\n"

/-- How a function on axios reads its response, up to the type of its output. -/
def axiosResponse : String :=
  "        .then(res => \x7b\n            if (res.data.error) \x7b\n" ++
  "                return Promise.reject(res.data.error);\n            \x7d\n" ++
  "            return res.data.response as "

/-- What the client on fetch says of itself. -/
def fetchPurpose : String := " built on the browser fetch API.\n * DO NOT EDIT.\n */\n"

/-- What the client on fetch shares between its functions. -/
def fetchPrologue : String :=
  "';\nimport \x7b generateQueryUrl, generateUrl \x7d from './helper';\n\n" ++
  "let baseUrl = \"http://localhost:8080\";\n\n" ++
  "export function setBaseUrl(url: string) \x7b\n    baseUrl = url;\n\x7d\n\n" ++
  "function call<T>(url: string, init: RequestInit): Promise<T> \x7b\n" ++
  "    return fetch(url, init)\n        .then(res => res.json())\n        .then(data => \x7b\n" ++
  "            if (data.error) \x7b\n                return Promise.reject(data.error);\n" ++
  "            \x7d\n            return data.response as T;\n        \x7d);\n\x7d\n"

/-- How a function on fetch ends when it sends a body. -/
def fetchBodyEnd : String :=
  "\",\n        headers: \x7b \"Content-Type\": \"application/json\" \x7d,\n" ++
  "        body: JSON.stringify(params),\n    \x7d);\n"

namespace Tree

/-- The line of a constant. -/
def constant : List Stmt := [
  .say "    ", .put "value" "name", .say " = ", .put "value" "value", .say ",\n"]

/-- An enumeration. -/
def enumeration : List Stmt := [
  .say "\nexport enum ", .put "enum" "name", .say " \x7b\n",
  .forEach "value" (.dot "enum" "fields") constant,
  .say "\x7d\n"]

/-- The comment of a field. -/
def comment : List Stmt := [.say "    /** ", .put "field" "comment", .say " */\n"]

/-- The lines of a field. -/
def field : List Stmt := [
  .when (.dot "field" "comment") comment,
  .say "    ", .put "field" "name", .say ": ",
  .print (.filter (.dot "field" "data_type") "target_type" []),
  .when repeatedField [.say "[]"],
  .say ";\n"]

/-- The interface of a message. -/
def message : List Stmt := [
  .say "\nexport interface ", .put "message" "name", .say " \x7b\n",
  .forEach "field" (.dot "message" "fields") field,
  .say "\x7d\n"]

/-- The type of error shapes. -/
def unionType : List Stmt := [
  .say unionHeading, .put "gen" "common_error", .say "Union =", .put "gen" "common_error_sub_types",
  .say ";\n"]

/-- The file of types. -/
def types : List Stmt := [
  .say heading,
  .forEach "enum" (.name "enums") enumeration,
  .forEach "message" (.name "data_types") message,
  .when (.and (.dot "gen" "has_common_error") (.dot "gen" "common_error_sub_types")) unionType]

/-- The shared helpers: the source as it stands. -/
def helper : List Stmt := [.say (Asset.linesText Asset.Builtin.Typescript.helper)]

/-- The line that imports what a statement prints. -/
def importLine (printed : Stmt) : List Stmt := [.say "    ", printed, .say ",\n"]

/-- Whether there is a common error that is not imported yet. -/
def lacksError : Expr :=
  .and (.dot "gen" "has_common_error")
    (.compare (.dot "gen" "common_error") [(.notContained, .name "imports")])

/-- The error type that the options of `func` name. -/
def errorCall : Expr := .call (.name "error_type") [.dot "func" "options"]

/-- The line that says a function rejects with what a statement prints. -/
def rejectionLine (printed : Stmt) : List Stmt := [
  .say " * Rejects with ", printed, .say " when the service reports an error.\n"]

/-- The line that names the error a function rejects with. -/
def rejection : Stmt :=
  .branch errorCall (rejectionLine (.print errorCall)) [
    .when (.dot "gen" "has_common_error") (rejectionLine (.put "gen" "common_error"))]

/-- Whether the verb of a function is `GET`. -/
def isGet : Expr := .compare (.name "verb") [(.equal, .literal (.text "GET"))]

/-- The function of a method, with how it sends its parameters. -/
def function (sending : List Stmt) : List Stmt := [
  .assign (.name "verb") (.call (.name "service_method") [.dot "func" "options"]),
  .say "\n/**\n", rejection, .say " */\nexport function ", .put "func" "name", .say "(params: ",
  .put "func" "input_type", .say "): Promise<", .put "func" "output_type",
  .say "> \x7b\n    const url: string = generateUrl(baseUrl, \"", .print (.name "class_name"),
  .say "\", \"", .put "func" "name", .say "\");\n"] ++ sending

/-- How a function on axios sends its parameters in the query. -/
def axiosQuery : List Stmt := [
  .say "    return axios.request(\x7b method: \"GET\", url, params \x7d)\n"]

/-- How a function on axios sends its parameters in the body. -/
def axiosBody : List Stmt := [
  .say "    return axios.request(\x7b method: \"", .print (.name "verb"),
  .say "\", url, data: params \x7d)\n"]

/-- How a function on axios sends its parameters. -/
def axiosSending : List Stmt := [
  .branch isGet axiosQuery axiosBody,
  .say axiosResponse, .put "func" "output_type", .say ";\n        \x7d);\n\x7d\n"]

/-- How a function on fetch sends its parameters in the query. -/
def fetchQuery : List Stmt := [
  .say "    return call<", .put "func" "output_type",
  .say ">(generateQueryUrl(url, params), \x7b method: \"GET\" \x7d);\n"]

/-- How a function on fetch sends its parameters in the body. -/
def fetchBody : List Stmt := [
  .say "    return call<", .put "func" "output_type", .say ">(url, \x7b\n        method: \"",
  .print (.name "verb"), .say fetchBodyEnd]

/-- How a function on fetch sends its parameters. -/
def fetchSending : List Stmt := [.branch isGet fetchQuery fetchBody, .say "\x7d\n"]

/-- The file of a client, with its fixed texts and how its functions send their parameters. -/
def client (purpose prologue : String) (sending : List Stmt) : List Stmt := [
  .say clientHeading, .print (.name "class_name"), .say purpose,
  .assign (.name "imports") (.call (.name "import_types") [.name "functions"]),
  .say "import \x7b\n",
  .forEach "name" (.name "imports") (importLine (.print (.name "name"))),
  .when lacksError (importLine (.put "gen" "common_error")),
  .say "\x7d from './", .print (.name "objs_module"), .say prologue,
  .forEach "func" (.name "functions") (function sending)]

/-- The file of the client on axios. -/
def axiosClient : List Stmt := client axiosPurpose axiosPrologue axiosSending

/-- The file of the client on fetch. -/
def fetchClient : List Stmt := client fetchPurpose fetchPrologue fetchSending

end Tree

theorem compilesTo_trees :
    compilesTo Asset.Builtin.Typescript.types Tree.types = true ∧
    compilesTo Asset.Builtin.Typescript.axiosClient Tree.axiosClient = true ∧
    compilesTo Asset.Builtin.Typescript.fetchClient Tree.fetchClient = true := by
  decide +kernel

theorem parse_types :
    parse (Asset.linesText Asset.Builtin.Typescript.types).toList = .ok Tree.types :=
  parse_of_compilesTo compilesTo_trees.1

theorem parse_axiosClient :
    parse (Asset.linesText Asset.Builtin.Typescript.axiosClient).toList = .ok Tree.axiosClient :=
  parse_of_compilesTo compilesTo_trees.2.1

theorem parse_fetchClient :
    parse (Asset.linesText Asset.Builtin.Typescript.fetchClient).toList = .ok Tree.fetchClient :=
  parse_of_compilesTo compilesTo_trees.2.2

set_option maxRecDepth 2048 in
theorem parse_helper :
    parse (Asset.linesText Asset.Builtin.Typescript.helper).toList = .ok Tree.helper :=
  parse_of_isTagless (by decide +kernel)

end Typescript

end ApiStubs
