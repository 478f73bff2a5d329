/-!
# Built-in templates for TypeScript

Each template as its lines.
-/

namespace ApiStubs.Asset.Builtin.Typescript

/-- URL building and error handling shared by the clients. -/
def helper : List String := [
  "/**",
  " * This file is generated by 'protoapi'",
  " * Shared helpers for the generated TypeScript clients.",
  " * DO NOT EDIT.",
  " */",
  "",
  "/**",
  " * @param val a string",
  " * @returns an encoded string that can be appended to an api url",
  " */",
  "export function encode(val: string): string \x7b",
  "    return encodeURIComponent(val).",
  "        replace(/%40/gi, '@').",
  "        replace(/%3A/gi, ':').",
  "        replace(/%24/g, '$').",
  "        replace(/%2C/gi, ',').",
  "        replace(/%20/g, '+').",
  "        replace(/%5B/gi, '[').",
  "        replace(/%5D/gi, ']');",
  "\x7d",
  "",
  "/**",
  " * Append the fields of `params` to `url` as a query string.",
  " * @example",
  " * generateQueryUrl(\"http://localhost:8080\", \x7bname: \"ada\", tags: [\"a\", \"b\"]\x7d)",
  " * => http://localhost:8080?name=ada&tags[]=a&tags[]=b",
  " */",
  "export function generateQueryUrl<T>(url: string, params: T): string \x7b",
  "    if (!params) \x7b",
  "        return url;",
  "    \x7d",
  "",
  "    const parts: string[] = [];",
  "    for (const key in params) \x7b",
  "        if (!Object.prototype.hasOwnProperty.call(params, key)) \x7b",
  "            continue;",
  "        \x7d",
  "        const val: any = params[key];",
  "        if (val === null || typeof val === 'undefined') \x7b",
  "            continue;",
  "        \x7d",
  "",
  "        const isArray = Array.isArray(val);",
  "        const k = isArray ? key + '[]' : key;",
  "        const vals: any[] = isArray ? val : [val];",
  "",
  "        vals.forEach(v => \x7b",
  "            if (v instanceof Date) \x7b",
  "                v = v.toISOString();",
  "            \x7d else if (typeof v === 'object') \x7b",
  "                v = JSON.stringify(v);",
  "            \x7d",
  "            parts.push(encode(k) + '=' + encode(String(v)));",
  "        \x7d);",
  "    \x7d",
  "",
  "    const serializedParams = parts.join('&');",
  "    if (serializedParams) \x7b",
  "        url += (url.indexOf('?') === -1 ? '?' : '&') + serializedParams;",
  "    \x7d",
  "    return url;",
  "\x7d",
  "",
  "/**",
  " * @example",
  " * generateUrl(\"http://localhost:8080\", \"HelloService\", \"SayHello\")",
  " * => http://localhost:8080/HelloService.SayHello",
  " */",
  "export function generateUrl(url: string, serviceName: string, functionName: string)" ++
    ": string \x7b",
  "    return url + \"/\" + serviceName + \".\" + functionName;",
  "\x7d"
]

/-- Enumerations, interfaces and the union of error shapes. -/
def types : List String := [
  "/**",
  " * This file is generated by 'protoapi'",
  " * It contains the data structures used by the generated TypeScript client.",
  " * DO NOT EDIT.",
  " */",
  "\x7b% for enum in enums %\x7d",
  "",
  "export enum \x7b\x7b enum.name \x7d\x7d \x7b",
  "\x7b% for value in enum.fields %\x7d",
  "    \x7b\x7b value.name \x7d\x7d = \x7b\x7b value.value \x7d\x7d,",
  "\x7b% endfor %\x7d",
  "\x7d",
  "\x7b% endfor %\x7d",
  "\x7b% for message in data_types %\x7d",
  "",
  "export interface \x7b\x7b message.name \x7d\x7d \x7b",
  "\x7b% for field in message.fields %\x7d",
  "\x7b% if field.comment %\x7d",
  "    /** \x7b\x7b field.comment \x7d\x7d */",
  "\x7b% endif %\x7d",
  "    \x7b\x7b field.name \x7d\x7d: \x7b\x7b field.data_type | target_type \x7d\x7d" ++
    "\x7b% if field.label == \"LABEL_REPEATED\" %\x7d[]\x7b% endif %\x7d;",
  "\x7b% endfor %\x7d",
  "\x7d",
  "\x7b% endfor %\x7d",
  "\x7b% if gen.has_common_error and gen.common_error_sub_types %\x7d",
  "",
  "/** Error shapes a service call may reject with, told apart by `kind`. */",
  "export type \x7b\x7b gen.common_error \x7d\x7dUnion =" ++
    "\x7b\x7b gen.common_error_sub_types \x7d\x7d;",
  "\x7b% endif %\x7d"
]

/-- A client on top of axios. -/
def axiosClient : List String := [
  "/**",
  " * This file is generated by 'protoapi'",
  " * It contains client code for \x7b\x7b class_name \x7d\x7d built on the 'axios' library,",
  " * which must be installed in the project.",
  " * DO NOT EDIT.",
  " */",
  "import axios from 'axios';",
  "\x7b% set imports = import_types(functions) %\x7d",
  "import \x7b",
  "\x7b% for name in imports %\x7d",
  "    \x7b\x7b name \x7d\x7d,",
  "\x7b% endfor %\x7d",
  "\x7b% if gen.has_common_error and gen.common_error not in imports %\x7d",
  "    \x7b\x7b gen.common_error \x7d\x7d,",
  "\x7b% endif %\x7d",
  "\x7d from './\x7b\x7b objs_module \x7d\x7d';",
  "import \x7b generateUrl \x7d from './helper';",
  "",
  "let baseUrl = \"http://localhost:8080\";",
  "",
  "export function setBaseUrl(url: string) \x7b",
  "    baseUrl = url;",
  "\x7d",
  "\x7b% for func in functions %\x7d",
  "\x7b% set verb = service_method(func.options) %\x7d",
  "",
  "/**",
  "\x7b% if error_type(func.options) %\x7d",
  " * Rejects with \x7b\x7b error_type(func.options) \x7d\x7d when the service reports an error.",
  "\x7b% elif gen.has_common_error %\x7d",
  " * Rejects with \x7b\x7b gen.common_error \x7d\x7d when the service reports an error.",
  "\x7b% endif %\x7d",
  " */",
  "export function \x7b\x7b func.name \x7d\x7d(params: \x7b\x7b func.input_type \x7d\x7d" ++
    "): Promise<\x7b\x7b func.output_type \x7d\x7d> \x7b",
  "    const url: string = generateUrl(baseUrl, \"\x7b\x7b class_name \x7d\x7d\", \"" ++
    "\x7b\x7b func.name \x7d\x7d\");",
  "\x7b% if verb == \"GET\" %\x7d",
  "    return axios.request(\x7b method: \"GET\", url, params \x7d)",
  "\x7b% else %\x7d",
  "    return axios.request(\x7b method: \"\x7b\x7b verb \x7d\x7d\", url, data: params \x7d)",
  "\x7b% endif %\x7d",
  "        .then(res => \x7b",
  "            if (res.data.error) \x7b",
  "                return Promise.reject(res.data.error);",
  "            \x7d",
  "            return res.data.response as \x7b\x7b func.output_type \x7d\x7d;",
  "        \x7d);",
  "\x7d",
  "\x7b% endfor %\x7d"
]

/-- A client on top of fetch. -/
def fetchClient : List String := [
  "/**",
  " * This file is generated by 'protoapi'",
  " * It contains client code for \x7b\x7b class_name \x7d\x7d built on the browser fetch API.",
  " * DO NOT EDIT.",
  " */",
  "\x7b% set imports = import_types(functions) %\x7d",
  "import \x7b",
  "\x7b% for name in imports %\x7d",
  "    \x7b\x7b name \x7d\x7d,",
  "\x7b% endfor %\x7d",
  "\x7b% if gen.has_common_error and gen.common_error not in imports %\x7d",
  "    \x7b\x7b gen.common_error \x7d\x7d,",
  "\x7b% endif %\x7d",
  "\x7d from './\x7b\x7b objs_module \x7d\x7d';",
  "import \x7b generateQueryUrl, generateUrl \x7d from './helper';",
  "",
  "let baseUrl = \"http://localhost:8080\";",
  "",
  "export function setBaseUrl(url: string) \x7b",
  "    baseUrl = url;",
  "\x7d",
  "",
  "function call<T>(url: string, init: RequestInit): Promise<T> \x7b",
  "    return fetch(url, init)",
  "        .then(res => res.json())",
  "        .then(data => \x7b",
  "            if (data.error) \x7b",
  "                return Promise.reject(data.error);",
  "            \x7d",
  "            return data.response as T;",
  "        \x7d);",
  "\x7d",
  "\x7b% for func in functions %\x7d",
  "\x7b% set verb = service_method(func.options) %\x7d",
  "",
  "/**",
  "\x7b% if error_type(func.options) %\x7d",
  " * Rejects with \x7b\x7b error_type(func.options) \x7d\x7d when the service reports an error.",
  "\x7b% elif gen.has_common_error %\x7d",
  " * Rejects with \x7b\x7b gen.common_error \x7d\x7d when the service reports an error.",
  "\x7b% endif %\x7d",
  " */",
  "export function \x7b\x7b func.name \x7d\x7d(params: \x7b\x7b func.input_type \x7d\x7d" ++
    "): Promise<\x7b\x7b func.output_type \x7d\x7d> \x7b",
  "    const url: string = generateUrl(baseUrl, \"\x7b\x7b class_name \x7d\x7d\", \"" ++
    "\x7b\x7b func.name \x7d\x7d\");",
  "\x7b% if verb == \"GET\" %\x7d",
  "    return call<\x7b\x7b func.output_type \x7d\x7d" ++
    ">(generateQueryUrl(url, params), \x7b method: \"GET\" \x7d);",
  "\x7b% else %\x7d",
  "    return call<\x7b\x7b func.output_type \x7d\x7d>(url, \x7b",
  "        method: \"\x7b\x7b verb \x7d\x7d\",",
  "        headers: \x7b \"Content-Type\": \"application/json\" \x7d,",
  "        body: JSON.stringify(params),",
  "    \x7d);",
  "\x7b% endif %\x7d",
  "\x7d",
  "\x7b% endfor %\x7d"
]

end ApiStubs.Asset.Builtin.Typescript
