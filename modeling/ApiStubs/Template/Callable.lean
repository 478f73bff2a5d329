import ApiStubs.Data.SortedMap
import ApiStubs.Schema.Basic
import ApiStubs.Target.Language
import ApiStubs.Template.Fault
import ApiStubs.Text.Casing

/-!
# Filters, tests and functions

What a template can call besides its own macros.  Some read types and methods of a description:
`target_type` and `scalar` look a type up in the target language, `service_method` and `error_type`
read method options, `import_types` lists the types that a list of methods mentions.

Of the callables that the Jinja language brings with it, these are the filters `join` and `length`
and the functions `range`, `dict` and `debug`.  Its other filters and all its tests are unknown
here, and its function `namespace` has a name but cannot be called.
-/

namespace ApiStubs.Template

/-- The printed form of an argument, which must be defined and given by place. -/
def textArgument (v : Value) : Except Fault String :=
  match v with
  | .undefined => .error .undefinedUse
  | .named _ => .error .tooManyArguments
  | _ => .ok v.print

/-- A function of one text as a filter without further arguments. -/
def textFilter (f : String → Value) (subject : Value) (arguments : List Value) :
    Except Fault Value :=
  match arguments with
  | [] =>
    match textArgument subject with
    | .error e => .error e
    | .ok s => .ok (f s)
  | _ :: _ => .error .tooManyArguments

/-- Printed items with a separator between them. -/
def joinItems (separator : String) : List Value → String
  | [] => ""
  | v :: rest =>
    match rest with
    | [] => v.print
    | _ :: _ => v.print ++ separator ++ joinItems separator rest

/-- Whether an argument counts as not given. -/
def isAbsent : Value → Bool
  | .undefined => true
  | .none => true
  | _ => false

/-- The separator of `join`. -/
def separatorOf : List Value → Except Fault String
  | [] => .ok ""
  | [v] => if isAbsent v then .ok "" else textArgument v
  | _ :: _ :: _ => .error .tooManyArguments

/-- The filter `join`; of an undefined value it makes an empty text. -/
def joinFilter (subject : Value) (arguments : List Value) : Except Fault Value :=
  match separatorOf arguments with
  | .error e => .error e
  | .ok separator =>
    match subject.items? with
    | none => .error (.notIterable subject.kind)
    | some items => .ok (.text (joinItems separator items))

/-- The filter `length`. -/
def lengthFilter (subject : Value) (arguments : List Value) : Except Fault Value :=
  match arguments with
  | [] =>
    match subject.length? with
    | none => .error (.noLength subject.kind)
    | some n => .ok (Value.count n)
  | _ :: _ => .error .tooManyArguments

/-- The filter with a name, applied. -/
def applyFilter (language : Language) (name : String) (subject : Value) (arguments : List Value) :
    Except Fault Value :=
  if name = "target_type" then
    textFilter (fun s => .text (language.nativeType s)) subject arguments
  else if name = "to_lower" then textFilter (fun s => .text (Text.lower s)) subject arguments
  else if name = "upper_first" then
    textFilter (fun s => .text (Text.capitalize s)) subject arguments
  else if name = "join" then joinFilter subject arguments
  else if name = "length" then lengthFilter subject arguments
  else .error (.unknownFilter name)

/-- The test with a name, applied. -/
def applyTest (name : String) (subject : Value) (arguments : List Value) : Except Fault Value :=
  if name = "scalar" then textFilter (fun s => .bool (isScalarName s)) subject arguments
  else .error (.unknownTest name)

/-- The text option under a key, or the default when it is absent or `none`. -/
def readOption (key default : String) (options : Value) : Except Fault Value :=
  if options.kind = .map then
    match options.member key with
    | .undefined => .ok (.text default)
    | .none => .ok (.text default)
    | .text s => .ok (.text s)
    | _ => .error (.optionNotText key)
  else .error (.notOptions options.kind)

/-- The text member of a method under a name. -/
def methodText (method : Value) (name : String) : Except Fault String :=
  if method.isUndefined then .error .undefinedUse
  else
    match method.member name with
    | .text s => .ok s
    | _ => .error (.methodWithout name)

/-- A name at the end of a list that does not hold it yet. -/
def addNew (names : List String) (name : String) : List String :=
  if names.contains name then names else names ++ [name]

/-- The input and output types of methods after those already listed, each once. -/
def collectTypes (names : List String) : List Value → Except Fault (List String)
  | [] => .ok names
  | method :: rest =>
    match methodText method "input_type" with
    | .error e => .error e
    | .ok input =>
      match methodText method "output_type" with
      | .error e => .error e
      | .ok output => collectTypes (addNew (addNew names input) output) rest

/-- The function `import_types`. -/
def importedTypes (methods : Value) : Except Fault Value :=
  match methods.items? with
  | none => .error (.notIterable methods.kind)
  | some items =>
    match collectTypes [] items with
    | .error e => .error e
    | .ok names => .ok (.list (names.map .text))

/-- A function of one argument. -/
def unary (f : Value → Except Fault Value) : List Value → Except Fault Value
  | [] => .error .missingArgument
  | [v] => f v
  | _ :: _ :: _ => .error .tooManyArguments

/-! ## Ranges -/

/-- How many items a range may have. -/
def rangeLimit : Nat := 100000

/-- A whole number of 64 bits with a sign. -/
def int64? : Value → Option Int
  | .float x =>
    match x.toInt? with
    | some n => if -Int.pow 2 63 ≤ n ∧ n ≤ Int.pow 2 63 then some (Width.signed64.clamp n) else none
    | none => none
  | v =>
    match v.position? with
    | some n => if Width.signed64.holds n then some n else none
    | none => none

/-- An argument that is a whole number. -/
def intArgument (v : Value) : Except Fault Int :=
  match int64? v with
  | some n => .ok n
  | none => .error (.notNumber v.kind)

/-- An argument that is a whole number, or the default when it is not given. -/
def intArgumentOr (default : Int) (v : Value) : Except Fault Int :=
  if isAbsent v then .ok default else intArgument v

/-- How many steps lead from one number up or down to another. -/
def stepCount (low high step : Int) : Nat :=
  if 0 < step then ((high - low + step - 1) / step).toNat
  else ((low - high - step - 1) / (-step)).toNat

/-- The numbers from one up or down to another, which is not among them. -/
def rangeValue (low high step : Int) : Except Fault Value :=
  if step = 0 || rangeLimit < stepCount low high step then .error .rangeTooLong
  else
    .ok (.chain 0 ((List.range (stepCount low high step)).map fun (i : Nat) =>
      .int .signed64 (low + (i : Int) * step)))

/-- The function `range`: of one bound from zero up to it, of two from the first to the second. -/
def rangeOf (arguments : List Value) : Except Fault Value :=
  match arguments with
  | [] => .error .missingArgument
  | first :: rest =>
    if 2 < rest.length then .error .tooManyArguments
    else
      let second := rest.head?.getD .none
      match intArgument first, intArgumentOr 0 second,
        intArgumentOr 1 (rest.tail.head?.getD .none) with
      | .ok low, .ok high, .ok step =>
        if isAbsent second then rangeValue 0 low step else rangeValue low high step
      | .error e, _, _ => .error e
      | _, .error e, _ => .error e
      | _, _, .error e => .error e

/-! ## Maps -/

/-- Arguments given by place, and those given by name. -/
def splitArguments (arguments : List Value) : List Value × List (String × Value) :=
  match arguments.getLast? with
  | some (.named entries) => (arguments.dropLast, entries)
  | _ => (arguments, [])

/-- A map in the order of its keys, from entries of which the later count. -/
def sortedMap (entries : List (String × Value)) : Value :=
  .map (entries.foldl (fun sorted entry => SortedMap.insertEntry entry.1 entry.2 sorted) [])

/-- The function `dict`: a map from another one and from arguments given by name. -/
def dictOf (arguments : List Value) : Except Fault Value :=
  match splitArguments arguments with
  | ([], named) => .ok (sortedMap named)
  | ([v], named) =>
    if isAbsent v then .ok (sortedMap named)
    else
      match v.entries? with
      | some entries => .ok (sortedMap (entries ++ named))
      | none => .error (.notMap v.kind)
  | _ => .error .tooManyArguments

/-! ## Looking inside -/

/-- What `debug` shows of its arguments: a single one by itself, several as a list. -/
def shownArguments : List Value → String
  | [v] => v.inner
  | arguments => (Value.list arguments).inner

/-- A function applied to arguments.  `namespace` can be named but not called: its values change
while a template is rendered, and no value here does. -/
def Function.apply : Function → List Value → Except Fault Value
  | .serviceMethod => unary (readOption Method.verbOption Method.defaultVerb)
  | .errorType => unary (readOption Method.errorOption "")
  | .importTypes => unary importedTypes
  | .range => rangeOf
  | .dict => dictOf
  | .namespace_ => fun _ => .error (.notCallable .function)
  | .debug => fun arguments => .ok (.text (shownArguments arguments))

end ApiStubs.Template
