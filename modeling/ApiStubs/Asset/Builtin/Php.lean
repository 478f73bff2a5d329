/-!
# Built-in templates for PHP

Each template as its lines.
-/

namespace ApiStubs.Asset.Builtin.Php

/-- Enumerations, messages and the client, in one file. -/
def client : List String := [
  "<?php",
  "/**",
  " * This file is generated by protoapi.",
  " * DO NOT EDIT.",
  " */",
  "\x7b% if namespace %\x7d",
  "",
  "namespace \x7b\x7b namespace \x7d\x7d;",
  "\x7b% endif %\x7d",
  "",
  "use Exception;",
  "\x7b% if service %\x7d",
  "use GuzzleHttp\\Client as HttpClient;",
  "\x7b% endif %\x7d",
  "\x7b% for enum in enums %\x7d",
  "",
  "final class \x7b\x7b enum.name \x7d\x7d",
  "\x7b",
  "\x7b% for value in enum.fields %\x7d",
  "    const \x7b\x7b value.name \x7d\x7d = \x7b\x7b value.value \x7d\x7d;",
  "\x7b% endfor %\x7d",
  "\x7d",
  "\x7b% endfor %\x7d",
  "\x7b% for message in messages %\x7d",
  "",
  "class \x7b\x7b message.name \x7d\x7d",
  "\x7b",
  "\x7b% for field in message.fields %\x7d",
  "    private $\x7b\x7b field.name \x7d\x7d;",
  "\x7b% endfor %\x7d",
  "",
  "    public function __construct(array $response = [])",
  "    \x7b",
  "        if ($response) \x7b",
  "            $this->validate($response);",
  "        \x7d",
  "    \x7d",
  "",
  "    public function validate(array $response)",
  "    \x7b",
  "\x7b% for field in message.fields %\x7d",
  "        if (!isset($response[\"\x7b\x7b field.key \x7d\x7d\"])) \x7b",
  "            throw new Exception(\"'\x7b\x7b field.key \x7d\x7d' does not exist\");",
  "        \x7d",
  "\x7b% if field.data_type is scalar or field.data_type in enum_names %\x7d",
  "        $this->\x7b\x7b field.name \x7d\x7d = $response[\"\x7b\x7b field.key \x7d\x7d\"];",
  "\x7b% elif field.label == \"LABEL_REPEATED\" %\x7d",
  "        $this->\x7b\x7b field.name \x7d\x7d = array_map(function ($item) \x7b",
  "            return new \x7b\x7b field.data_type \x7d\x7d($item);",
  "        \x7d, $response[\"\x7b\x7b field.key \x7d\x7d\"]);",
  "\x7b% else %\x7d",
  "        $this->\x7b\x7b field.name \x7d\x7d = new \x7b\x7b field.data_type \x7d\x7d" ++
    "($response[\"\x7b\x7b field.key \x7d\x7d\"]);",
  "\x7b% endif %\x7d",
  "\x7b% endfor %\x7d",
  "    \x7d",
  "\x7b% for field in message.fields %\x7d",
  "",
  "    public function set_\x7b\x7b field.name \x7d\x7d($\x7b\x7b field.name \x7d\x7d)",
  "    \x7b",
  "        $this->\x7b\x7b field.name \x7d\x7d = $\x7b\x7b field.name \x7d\x7d;",
  "    \x7d",
  "",
  "    public function get_\x7b\x7b field.name \x7d\x7d()",
  "    \x7b",
  "        return $this->\x7b\x7b field.name \x7d\x7d;",
  "    \x7d",
  "\x7b% endfor %\x7d",
  "",
  "    public function to_array()",
  "    \x7b",
  "        return [",
  "\x7b% for field in message.fields %\x7d",
  "\x7b% if field.data_type is scalar or field.data_type in enum_names %\x7d",
  "            \"\x7b\x7b field.key \x7d\x7d\" => $this->\x7b\x7b field.name \x7d\x7d,",
  "\x7b% elif field.label == \"LABEL_REPEATED\" %\x7d",
  "            \"\x7b\x7b field.key \x7d\x7d\" => array_map(function ($item) \x7b",
  "                return $item->to_array();",
  "            \x7d, $this->\x7b\x7b field.name \x7d\x7d),",
  "\x7b% else %\x7d",
  "            \"\x7b\x7b field.key \x7d\x7d\" => $this->\x7b\x7b field.name \x7d\x7d->to_array(),",
  "\x7b% endif %\x7d",
  "\x7b% endfor %\x7d",
  "        ];",
  "    \x7d",
  "\x7d",
  "\x7b% endfor %\x7d",
  "\x7b% if service %\x7d",
  "",
  "class \x7b\x7b service \x7d\x7d",
  "\x7b",
  "    protected $httpClient;",
  "",
  "    public function __construct($baseUri = '127.0.0.1:8080')",
  "    \x7b",
  "        $this->httpClient = new HttpClient(",
  "            [",
  "                'base_uri' => $baseUri,",
  "                'timeout' => 30,",
  "            ]",
  "        );",
  "    \x7d",
  "",
  "    private function callApi($req, $method, $uri, $outputName)",
  "    \x7b",
  "        $data = [",
  "            'json' => $req->to_array(),",
  "        ];",
  "        $response = $this->httpClient->request($method, $uri, $data);",
  "        $rawContent = $response->getBody()->getContents();",
  "",
  "        $content = json_decode($rawContent, true);",
  "        if (isset($content[\"error\"])) \x7b",
  "            throw new Exception($content[\"error\"][\"message\"]);",
  "        \x7d",
  "        if (isset($content[\"response\"])) \x7b",
  "            $result = new $outputName();",
  "            $result->validate($content[\"response\"]);",
  "            return $result;",
  "        \x7d",
  "        throw new Exception(\"Cannot find response body: \" . $rawContent);",
  "    \x7d",
  "\x7b% for method in methods %\x7d",
  "",
  "    public function \x7b\x7b method.name \x7d\x7d(\x7b\x7b method.input_type \x7d\x7d $req)",
  "    \x7b",
  "        return $this->callApi($req, \"\x7b\x7b method.service_type \x7d\x7d\", \"" ++
    "\x7b\x7b method.path \x7d\x7d\", __NAMESPACE__ . \"\\\\\x7b\x7b method.output_type \x7d\x7d" ++
    "\");",
  "    \x7d",
  "\x7b% endfor %\x7d",
  "\x7d",
  "\x7b% endif %\x7d"
]

end ApiStubs.Asset.Builtin.Php
