/-!
# Built-in templates for Java

Each template as its lines.
-/

namespace ApiStubs.Asset.Builtin.Java

/-- An enumeration. -/
def enumeration : List String := [
  "// Code generated by protoapi; DO NOT EDIT.",
  "\x7b% if package %\x7d",
  "",
  "package \x7b\x7b package \x7d\x7d;",
  "\x7b% endif %\x7d",
  "",
  "import com.fasterxml.jackson.annotation.JsonValue;",
  "",
  "public enum \x7b\x7b enum_data.name \x7d\x7d \x7b",
  "\x7b% if not enum_data.fields %\x7d",
  "    ;",
  "\x7b% endif %\x7d",
  "\x7b% for value in enum_data.fields %\x7d",
  "    \x7b\x7b value.name \x7d\x7d(\x7b\x7b value.value \x7d\x7d)\x7b% if loop.last %\x7d;" ++
    "\x7b% else %\x7d,\x7b% endif %\x7d",
  "",
  "\x7b% endfor %\x7d",
  "",
  "    private final int value;",
  "",
  "    \x7b\x7b enum_data.name \x7d\x7d(int value) \x7b",
  "        this.value = value;",
  "    \x7d",
  "",
  "    @JsonValue",
  "    public int getValue() \x7b",
  "        return value;",
  "    \x7d",
  "\x7d"
]

/-- The base class of a controller. -/
def controller : List String := [
  "// Code generated by protoapi; DO NOT EDIT.",
  "\x7b% if package %\x7d",
  "",
  "package \x7b\x7b package \x7d\x7d;",
  "\x7b% endif %\x7d",
  "",
  "import org.springframework.web.bind.annotation.GetMapping;",
  "import org.springframework.web.bind.annotation.PostMapping;",
  "import org.springframework.web.bind.annotation.RequestBody;",
  "import org.springframework.web.bind.annotation.ResponseBody;",
  "",
  "public abstract class \x7b\x7b name \x7d\x7dBase \x7b",
  "\x7b% for method in methods %\x7d",
  "\x7b% if method.service_type != \"GET\" %\x7d",
  "",
  "    @PostMapping(\"\x7b\x7b method.path \x7d\x7d\")",
  "    @ResponseBody",
  "    public \x7b\x7b method.output_type \x7d\x7d \x7b\x7b method.name \x7d\x7d" ++
    "Post(@RequestBody \x7b\x7b method.input_type \x7d\x7d in) \x7b",
  "        return \x7b\x7b method.name \x7d\x7d(in);",
  "    \x7d",
  "\x7b% endif %\x7d",
  "\x7b% if method.service_type != \"POST\" %\x7d",
  "",
  "    @GetMapping(\"\x7b\x7b method.path \x7d\x7d\")",
  "    @ResponseBody",
  "    public \x7b\x7b method.output_type \x7d\x7d \x7b\x7b method.name \x7d\x7dGet(" ++
    "\x7b\x7b method.input_type \x7d\x7d in) \x7b",
  "        return \x7b\x7b method.name \x7d\x7d(in);",
  "    \x7d",
  "\x7b% endif %\x7d",
  "",
  "    abstract \x7b\x7b method.output_type \x7d\x7d \x7b\x7b method.name \x7d\x7d(" ++
    "\x7b\x7b method.input_type \x7d\x7d in);",
  "\x7b% endfor %\x7d",
  "\x7d"
]

/-- A message class. -/
def message : List String := [
  "\x7b% macro java_type(field) %\x7d\x7b% if field.label == \"LABEL_REPEATED\" %\x7dList<" ++
    "\x7b\x7b field.data_type | target_type \x7d\x7d>\x7b% else %\x7d" ++
    "\x7b\x7b field.data_type | target_type \x7d\x7d\x7b% endif %\x7d\x7b% endmacro %\x7d",
  "// Code generated by protoapi; DO NOT EDIT.",
  "\x7b% if package %\x7d",
  "",
  "package \x7b\x7b package \x7d\x7d;",
  "\x7b% endif %\x7d",
  "",
  "import com.fasterxml.jackson.annotation.JsonCreator;",
  "import com.fasterxml.jackson.annotation.JsonProperty;",
  "\x7b% if uses_list %\x7d",
  "",
  "import java.util.List;",
  "\x7b% endif %\x7d",
  "",
  "public class \x7b\x7b message.name \x7d\x7d \x7b",
  "\x7b% for field in message.fields %\x7d",
  "    private final \x7b\x7b java_type(field) \x7d\x7d \x7b\x7b field.name \x7d\x7d;",
  "\x7b% endfor %\x7d",
  "",
  "    @JsonCreator",
  "    public \x7b\x7b message.name \x7d\x7d(",
  "\x7b% for field in message.fields %\x7d",
  "            @JsonProperty(\"\x7b\x7b field.key \x7d\x7d\") \x7b\x7b java_type(field) \x7d\x7d" ++
    " \x7b\x7b field.name \x7d\x7d\x7b% if not loop.last %\x7d,\x7b% endif %\x7d",
  "",
  "\x7b% endfor %\x7d",
  "    ) \x7b",
  "\x7b% for field in message.fields %\x7d",
  "        this.\x7b\x7b field.name \x7d\x7d = \x7b\x7b field.name \x7d\x7d;",
  "\x7b% endfor %\x7d",
  "    \x7d",
  "\x7b% for field in message.fields %\x7d",
  "",
  "    public \x7b\x7b java_type(field) \x7d\x7d get\x7b\x7b field.name | upper_first \x7d\x7d" ++
    "() \x7b",
  "        return \x7b\x7b field.name \x7d\x7d;",
  "    \x7d",
  "\x7b% endfor %\x7d",
  "\x7d"
]

end ApiStubs.Asset.Builtin.Java
