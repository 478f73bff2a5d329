/-!
# Built-in templates for Go

Each template as its lines.
-/

namespace ApiStubs.Asset.Builtin.Go

/-- Enumerations and structs. -/
def types : List String := [
  "// Code generated by protoapi; DO NOT EDIT.",
  "",
  "package \x7b\x7b package \x7d\x7d",
  "\x7b% for enum in enums %\x7d",
  "",
  "type \x7b\x7b enum.name \x7d\x7d int",
  "",
  "const (",
  "\x7b% for value in enum.fields %\x7d",
  "\t\x7b\x7b value.name \x7d\x7d \x7b\x7b enum.name \x7d\x7d = \x7b\x7b value.value \x7d\x7d",
  "\x7b% endfor %\x7d",
  ")",
  "",
  "func (code \x7b\x7b enum.name \x7d\x7d) String() string \x7b",
  "\tnames := map[\x7b\x7b enum.name \x7d\x7d]string\x7b",
  "\x7b% for value in enum.fields %\x7d",
  "\t\t\x7b\x7b value.name \x7d\x7d: \"\x7b\x7b value.name \x7d\x7d\",",
  "\x7b% endfor %\x7d",
  "\t\x7d",
  "",
  "\treturn names[code]",
  "\x7d",
  "\x7b% endfor %\x7d",
  "\x7b% for message in messages %\x7d",
  "",
  "// \x7b\x7b message.name \x7d\x7d",
  "type \x7b\x7b message.name \x7d\x7d struct \x7b",
  "\x7b% for field in message.fields %\x7d",
  "\t\x7b\x7b field.name | upper_first \x7d\x7d \x7b% if field.label == \"LABEL_REPEATED\" %\x7d" ++
    "[]\x7b% endif %\x7d" ++
    "\x7b% if field.data_type is not scalar and field.data_type not in enum_names %\x7d*" ++
    "\x7b% endif %\x7d\x7b\x7b field.data_type | target_type \x7d\x7d `json:\"" ++
    "\x7b\x7b field.key \x7d\x7d\" form:\"\x7b\x7b field.key \x7d\x7d\" query:\"" ++
    "\x7b\x7b field.key \x7d\x7d\"`",
  "\x7b% endfor %\x7d",
  "\x7d",
  "\x7b% endfor %\x7d"
]

/-- The service interface, its handlers and their routes. -/
def server : List String := [
  "// Code generated by protoapi; DO NOT EDIT.",
  "",
  "package \x7b\x7b package \x7d\x7d",
  "",
  "import (",
  "\t\"net/http\"",
  "",
  "\t\"github.com/labstack/echo\"",
  ")",
  "",
  "// \x7b\x7b name \x7d\x7d is the interface implemented by the service controllers",
  "type \x7b\x7b name \x7d\x7d interface \x7b",
  "\x7b% for method in methods %\x7d",
  "\t\x7b\x7b method.title \x7d\x7d(*\x7b\x7b method.input_type \x7d\x7d) (*" ++
    "\x7b\x7b method.output_type \x7d\x7d\x7b% if method.error_type %\x7d, *" ++
    "\x7b\x7b method.error_type \x7d\x7d\x7b% endif %\x7d)",
  "\x7b% endfor %\x7d",
  "\x7d",
  "",
  "type ErrorInternal struct \x7b",
  "\tCode    int32       `json:\"code\"`",
  "\tMessage string      `json:\"message\"`",
  "\tDetails interface\x7b\x7d `json:\"details\"`",
  "\x7d",
  "",
  "type ResponseInternal struct \x7b",
  "\tResponse interface\x7b\x7d    `json:\"response\"`",
  "\tError    *ErrorInternal `json:\"error\"`",
  "\x7d",
  "\x7b% for method in methods %\x7d",
  "",
  "func _\x7b\x7b method.name \x7d\x7d_Handler(srv \x7b\x7b name \x7d\x7d) echo.HandlerFunc \x7b",
  "\treturn func(c echo.Context) (err error) \x7b",
  "\t\tin := new(\x7b\x7b method.input_type \x7d\x7d)",
  "",
  "\t\tif err = c.Bind(in); err != nil \x7b",
  "\t\t\tresp := ResponseInternal\x7b",
  "\t\t\t\tError: &ErrorInternal\x7bCode: 1000, Message: err.Error()\x7d,",
  "\t\t\t\x7d",
  "\t\t\treturn c.JSON(http.StatusBadRequest, resp)",
  "\t\t\x7d",
  "",
  "\x7b% if method.error_type %\x7d",
  "\t\tout, callErr := srv.\x7b\x7b method.title \x7d\x7d(in)",
  "\t\tif callErr != nil \x7b",
  "\t\t\tresp := ResponseInternal\x7b",
  "\t\t\t\tError: &ErrorInternal\x7bDetails: callErr\x7d,",
  "\t\t\t\x7d",
  "\t\t\treturn c.JSON(http.StatusOK, resp)",
  "\t\t\x7d",
  "\x7b% else %\x7d",
  "\t\tout := srv.\x7b\x7b method.title \x7d\x7d(in)",
  "\x7b% endif %\x7d",
  "",
  "\t\tresp := ResponseInternal\x7b",
  "\t\t\tResponse: out,",
  "\t\t\x7d",
  "\t\treturn c.JSON(http.StatusOK, resp)",
  "\t\x7d",
  "\x7d",
  "\x7b% endfor %\x7d",
  "",
  "// Register\x7b\x7b name \x7d\x7d binds the service routes",
  "func Register\x7b\x7b name \x7d\x7d(e *echo.Echo, srv \x7b\x7b name \x7d\x7d) \x7b",
  "\x7b% for method in methods %\x7d",
  "\x7b% if method.service_type != \"POST\" %\x7d",
  "\te.GET(\"\x7b\x7b method.path \x7d\x7d\", _\x7b\x7b method.name \x7d\x7d_Handler(srv))",
  "\x7b% endif %\x7d",
  "\x7b% if method.service_type != \"GET\" %\x7d",
  "\te.POST(\"\x7b\x7b method.path \x7d\x7d\", _\x7b\x7b method.name \x7d\x7d_Handler(srv))",
  "\x7b% endif %\x7d",
  "\x7b% endfor %\x7d",
  "\x7d"
]

end ApiStubs.Asset.Builtin.Go
