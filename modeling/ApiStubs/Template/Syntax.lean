import ApiStubs.Number.Double

/-!
# The shape of a template

A template is text with tags: expressions to print, conditions, loops, bindings and macros.
-/

namespace ApiStubs.Template

/-- A constant in a template. -/
inductive Literal where
  | none
  | bool (value : Bool)
  | int (value : Nat)
  | float (value : Double)
  | text (value : String)
  deriving DecidableEq, Repr, Inhabited

/-- The operators that compare two values. -/
inductive Comparison where
  | equal
  | unequal
  /-- the left value is contained in the right one -/
  | contained
  | notContained
  deriving DecidableEq, Repr, Inhabited

/-- An expression. -/
inductive Expr where
  | literal (value : Literal)
  | name (text : String)
  | list (items : List Expr)
  /-- `subject.name` -/
  | member (subject : Expr) (name : String)
  /-- `subject[index]` -/
  | item (subject index : Expr)
  | negate (operand : Expr)
  | not (operand : Expr)
  /-- the second operand is evaluated only if the first is true -/
  | and (left right : Expr)
  /-- the second operand is evaluated only if the first is false -/
  | or (left right : Expr)
  | add (left right : Expr)
  /-- every operand is compared with the next one, up to the first comparison that fails -/
  | compare (first : Expr) (links : List (Comparison × Expr))
  /-- `subject | name(arguments)` -/
  | filter (subject : Expr) (name : String) (arguments : List Expr)
  /-- `subject is name(arguments)` -/
  | test (subject : Expr) (name : String) (arguments : List Expr)
  /-- `callee(arguments)` -/
  | call (callee : Expr) (arguments : List Expr)
  /-- the arguments of a call that are given by name, after those given by place -/
  | named (entries : List (String × Expr))
  deriving Repr, Inhabited

/-- What a value is bound to. -/
inductive Target where
  | name (text : String)
  /-- one target for each item of the value -/
  | tuple (items : List Target)
  /-- a member of a value; no value lets its members be bound -/
  | member (subject : Target) (name : String)
  deriving Repr, Inhabited

/-- A parameter of a macro, with the default for an argument that is not given. -/
structure Parameter where
  name : String
  default : Option Expr
  deriving Repr, Inhabited

/-- A statement. -/
inductive Stmt where
  /-- text as it stands -/
  | text (content : List Char)
  /-- print a value -/
  | print (value : Expr)
  | branch (condition : Expr) (yes no : List Stmt)
  /-- the body once per item, or the alternative when there are no items -/
  | loop (target : Target) (source : Expr) (body alternative : List Stmt)
  /-- bind names in the innermost scope -/
  | assign (target : Target) (value : Expr)
  /-- bind what the body writes, after filters with their arguments -/
  | capture (target : Target) (filters : List (String × List Expr)) (body : List Stmt)
  /-- bind a name to a body with parameters -/
  | define (name : String) (parameters : List Parameter) (body : List Stmt)
  deriving Repr, Inhabited

/-- Why a source is not a template. -/
inductive SyntaxFault where
  /-- a comment without its end -/
  | unclosedComment
  /-- raw text without its end -/
  | unclosedRaw
  /-- a string without its closing quote -/
  | unclosedText
  /-- an escape in a string that stands for nothing -/
  | badEscape
  /-- a number that stands for nothing -/
  | badNumber
  /-- a character that starts no token -/
  | unexpectedCharacter (character : Char)
  /-- the source ended before what was due -/
  | unexpectedEnd (expected : String)
  /-- another token than what was due -/
  | unexpectedToken (expected : String)
  /-- a tag that opens no known statement -/
  | unknownStatement (name : String)
  /-- a name that cannot be bound -/
  | reservedName (name : String)
  /-- nesting beyond what the reader follows -/
  | tooDeep
  /-- a call with more arguments than allowed -/
  | tooManyArguments
  /-- a cause given by its text -/
  | note (text : String)
  deriving DecidableEq, Repr, Inhabited

namespace SyntaxFault

/-- The text of the diagnostic. -/
def message : SyntaxFault → String
  | .unclosedComment => "syntax error: unexpected end of comment"
  | .unclosedRaw => "syntax error: unexpected end of raw block"
  | .unclosedText => "syntax error: unexpected end of string"
  | .badEscape => "bad string escape"
  | .badNumber => "syntax error: invalid number"
  | .unexpectedCharacter _ => "syntax error: unexpected character"
  | .unexpectedEnd expected => "syntax error: unexpected end of input, expected " ++ expected
  | .unexpectedToken expected => "syntax error: unexpected token, expected " ++ expected
  | .unknownStatement name => "syntax error: unknown statement " ++ name
  | .reservedName name => "syntax error: cannot assign to reserved variable name " ++ name
  | .tooDeep => "syntax error: template exceeds maximum recursion limits"
  | .tooManyArguments => "syntax error: too many arguments in function call"
  | .note text => text

end SyntaxFault

end ApiStubs.Template
