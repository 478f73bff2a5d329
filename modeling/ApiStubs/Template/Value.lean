import ApiStubs.Data.Entries
import ApiStubs.Template.Capture
import ApiStubs.Text.Quoted
import ApiStubs.Text.Split

/-!
# Values of a template

What an expression stands for.  Macros, functions and the round of a loop are values too.  A name
that is bound to nothing has the value `undefined`, which may be passed on but not looked into.
-/

namespace ApiStubs.Template

/-- The functions that a template can call. -/
inductive Function where
  | serviceMethod
  | errorType
  | importTypes
  | range
  | dict
  | namespace_
  | debug
  deriving DecidableEq, Repr, Inhabited

namespace Function

/-- The name of a function. -/
def name : Function → String
  | .serviceMethod => "service_method"
  | .errorType => "error_type"
  | .importTypes => "import_types"
  | .range => "range"
  | .dict => "dict"
  | .namespace_ => "namespace"
  | .debug => "debug"

/-- All functions. -/
def all : List Function :=
  [serviceMethod, errorType, importTypes, range, dict, namespace_, debug]

/-- The function with a name. -/
def ofName? (name : String) : Option Function := all.find? fun f => f.name = name

/-- The printed form of a function.  The functions that read one option look the same. -/
def label : Function → String
  | .serviceMethod => "<function option>"
  | .errorType => "<function option>"
  | f => "<function " ++ f.name ++ ">"

end Function

/-- A macro as a value.  What it remembers is kept with the frame that defines it. -/
structure Routine where
  name : String
  parameters : List Parameter
  body : List Stmt
  /-- the frame that keeps what the macro remembers, counted from the outermost one -/
  home : Option Nat
  deriving Repr, Inhabited

/-- The widths in which integers are kept. -/
inductive Width where
  | unsigned64
  | signed64
  | signed128
  | unsigned128
  deriving DecidableEq, Repr, Inhabited

/-- A value. -/
inductive Value where
  | undefined
  | none
  | bool (value : Bool)
  | int (width : Width) (value : Int)
  | float (value : Double)
  | text (value : String)
  | list (items : List Value)
  /-- items that are produced one after the other, such as two lists in a row; how many such joints
  lie on top of each other -/
  | chain (joints : Nat) (items : List Value)
  /-- entries in the order in which they were given, no key twice -/
  | map (entries : List (String × Value))
  /-- the arguments of a call that are given by name -/
  | named (entries : List (String × Value))
  | function (f : Function)
  | routine (r : Routine)
  /-- a round of the loop of a frame: how many rounds came before, how many there are if that is
  known, and the items of the rounds before and after -/
  | round (home index : Nat) (length : Option Nat) (previous next : Value)
  deriving Repr, Inhabited

/-- The kinds of value. -/
inductive Kind where
  | undefined
  | none
  | bool
  | number
  | text
  | list
  | map
  | chain
  | function
  deriving DecidableEq, Repr, Inhabited

namespace Kind

/-- How a diagnostic names the kind. -/
def name : Kind → String
  | .undefined => "undefined"
  | .none => "none"
  | .bool => "bool"
  | .number => "number"
  | .text => "string"
  | .list => "sequence"
  | .map => "map"
  | .chain => "iterator"
  | .function => "plain object"

end Kind

namespace Value

/-- The kind of a value. -/
def kind : Value → Kind
  | .undefined => .undefined
  | .none => .none
  | .bool _ => .bool
  | .int _ _ => .number
  | .float _ => .number
  | .text _ => .text
  | .list _ => .list
  | .chain _ _ => .chain
  | .map _ => .map
  | .named _ => .map
  | .function _ => .function
  | .routine _ => .map
  | .round _ _ _ _ _ => .map

/-- Whether the value is undefined. -/
def isUndefined : Value → Bool
  | .undefined => true
  | _ => false

/-- A number of things. -/
def count (n : Nat) : Value := .int .unsigned64 n

/-- An integer that was given from outside: with a sign only if it is negative. -/
def given (n : Int) : Value := .int (if n < 0 then .signed64 else .unsigned64) n

/-- The text of a value that is one. -/
def text? : Value → Option String
  | .text s => some s
  | _ => Option.none

/-! ## Members -/

/-- The members of a macro. -/
def routineEntries (r : Routine) : List (String × Value) := [
  ("name", .text r.name), ("arguments", .list (r.parameters.map fun p => .text p.name)),
  ("caller", .bool (asksCaller r.parameters r.body))]

/-- The members of a round of a loop. -/
def roundEntries (index : Nat) (length : Option Nat) (previous next : Value) :
    List (String × Value) := [
  ("index0", count index),
  ("index", count (index + 1)),
  ("length", (length.map count).getD .undefined),
  ("revindex", (length.map fun n => count (n - index)).getD .undefined),
  ("revindex0", (length.map fun n => count (n - index - 1)).getD .undefined),
  ("first", .bool (index == 0)),
  ("last", .bool (length.any fun n => index + 1 == n)),
  ("depth", count 1),
  ("depth0", count 0),
  ("previtem", previous),
  ("nextitem", next)]

/-- The members of a value that has any. -/
def entries? : Value → Option (List (String × Value))
  | .map entries => some entries
  | .named entries => some entries
  | .routine r => some (routineEntries r)
  | .round _ index length previous next => some (roundEntries index length previous next)
  | _ => Option.none

/-- The member of a value under a name. -/
def member (subject : Value) (name : String) : Value :=
  match subject.entries? with
  | some entries => (findEntry name entries).getD .undefined
  | Option.none => .undefined

/-- The value at a position, counted from the end when negative. -/
def atPosition {α : Type} (items : List α) (position : Int) : Option α :=
  if 0 ≤ position then items[position.toNat]?
  else if (-position).toNat ≤ items.length then items[items.length - (-position).toNat]?
  else Option.none

/-- The integer that a value stands for as a position. -/
def position? : Value → Option Int
  | .int _ n => some n
  | .bool b => some (if b then 1 else 0)
  | .float x => x.toInt?
  | _ => Option.none

/-- The item of a value under an index; undefined when there is none. -/
def item (subject index : Value) : Value :=
  match subject with
  | .list items =>
    match index.position? with
    | some n => (atPosition items n).getD .undefined
    | Option.none => .undefined
  | .chain _ items =>
    match index.position? with
    | some n => (atPosition items n).getD .undefined
    | Option.none => .undefined
  | .text s =>
    match index.position? with
    | some n => ((atPosition s.toList n).map fun c => .text (String.ofList [c])).getD .undefined
    | Option.none => .undefined
  | _ =>
    match index.text? with
    | some key => subject.member key
    | Option.none => .undefined

/-- Whether a value counts as true: all but `none`, `false`, zero and what is empty. -/
def isTrue : Value → Bool
  | .undefined => false
  | .none => false
  | .bool b => b
  | .int _ n => n ≠ 0
  | .float x => !x.isZero
  | .text s => s ≠ ""
  | .list items => !items.isEmpty
  | .chain _ items => !items.isEmpty
  | .map entries => !entries.isEmpty
  | .named entries => !entries.isEmpty
  | .function _ => true
  | .routine _ => true
  | .round _ _ _ _ _ => true

/-- What iterating over a value yields: the items of a list, the characters of a text, the keys of a
map, and nothing for `none` and `undefined`. -/
def items? : Value → Option (List Value)
  | .undefined => some []
  | .none => some []
  | .text s => some (s.toList.map fun c => .text (String.ofList [c]))
  | .list items => some items
  | .chain _ items => some items
  | v => v.entries?.map fun entries => entries.map fun entry => .text entry.1

/-- The number of rounds that a loop over a value knows of.  The characters of a text are not
counted ahead. -/
def rounds? (v : Value) : Option Nat :=
  match v with
  | .text _ => Option.none
  | _ => v.items?.map List.length

/-- The items of a value into several targets: of a list, or the keys of a map. -/
def parts? : Value → Option (List Value)
  | .list items => some items
  | .chain _ items => some items
  | v => v.entries?.map fun entries => entries.map fun entry => .text entry.1

/-- The number of items of a value that has any. -/
def length? : Value → Option Nat
  | .text s => some s.length
  | .list items => some items.length
  | .chain _ items => some items.length
  | v => v.entries?.map List.length

/-! ## Printed form -/

/-- The printed form of a round of a loop. -/
def printRound (index : Nat) (length : Option Nat) : String :=
  "<loop " ++ Text.decimalNat index ++ "/" ++ (length.map Text.decimalNat).getD "?" ++ ">"

mutual

/-- The form of a value inside a list or a map: texts are quoted. -/
def inner : Value → String
  | .undefined => "undefined"
  | .none => "None"
  | .bool true => "True"
  | .bool false => "False"
  | .int _ n => Text.decimal n
  | .float x => x.inner
  | .text s => Text.quoted s
  | .list items => "[" ++ innerItems items ++ "]"
  | .chain _ items => "[" ++ innerItems items ++ "]"
  | .map entries => "\x7b" ++ innerEntries entries ++ "\x7d"
  | .named entries => "\x7b" ++ innerEntries entries ++ "\x7d"
  | .function f => f.label
  | .routine r => "<macro " ++ r.name ++ ">"
  | .round _ index length _ _ => printRound index length

/-- Items with commas between them. -/
def innerItems : List Value → String
  | [] => ""
  | v :: rest =>
    match rest with
    | [] => inner v
    | _ :: _ => inner v ++ ", " ++ innerItems rest

/-- Entries with commas between them. -/
def innerEntries : List (String × Value) → String
  | [] => ""
  | (key, v) :: rest =>
    match rest with
    | [] => Text.quoted key ++ ": " ++ inner v
    | _ :: _ => Text.quoted key ++ ": " ++ inner v ++ ", " ++ innerEntries rest

end

/-- The printed form of a value: a text as it is, a number without a power of ten, anything else as
inside a list. -/
def print : Value → String
  | .undefined => ""
  | .text s => s
  | .float x => x.positional
  | v => inner v

end Value

end ApiStubs.Template
