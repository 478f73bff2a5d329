import ApiStubs.Template.Equality

/-!
# Why a template fails to render

Rendering is strict: a value that is not there may be passed on, but printing it, testing it,
comparing it or looking into it fails.
-/

namespace ApiStubs.Template

/-- Why rendering stopped. -/
inductive Fault where
  /-- an undefined value was used -/
  | undefinedUse
  /-- a value that cannot be iterated over -/
  | notIterable (kind : Kind)
  /-- a value that has no items to be contained in -/
  | notContainer (kind : Kind)
  /-- a value that has no length -/
  | noLength (kind : Kind)
  /-- a value that cannot be called -/
  | notCallable (kind : Kind)
  /-- operands that cannot be added -/
  | notAddable (left right : Kind)
  /-- an operand that is no number -/
  | notNumber (kind : Kind)
  /-- an argument that is no map -/
  | notMap (kind : Kind)
  | unknownFilter (name : String)
  | unknownTest (name : String)
  | unknownFunction (name : String)
  /-- a value that has nothing to call under the name -/
  | unknownMethod (name : String)
  | missingArgument
  | tooManyArguments
  /-- a range with too many items -/
  | rangeTooLong
  /-- a value that does not have one item for each target -/
  | cannotUnpack (kind : Kind)
  /-- a member that cannot be bound -/
  | notAssignable (name : String)
  /-- a loop started anew that does not allow it -/
  | notRecursive
  /-- calls nested beyond the limit -/
  | tooDeep
  /-- no template was compiled under the name -/
  | unknownTemplate (name : String)
  /-- an option reader was given something else than options -/
  | notOptions (kind : Kind)
  /-- an option whose value is no text -/
  | optionNotText (key : String)
  /-- a method without a text under the name of one of its types -/
  | methodWithout (name : String)
  /-- a cause given by its text -/
  | note (text : String)
  deriving DecidableEq, Repr, Inhabited

namespace Fault

/-- What the helpers of this library say about a fault of theirs. -/
def detail? : Fault → Option String
  | .notOptions kind => some ("expected an option map, got " ++ kind.name)
  | .optionNotText key => some ("option " ++ key ++ " is not a string")
  | .methodWithout name => some ("method has no string " ++ name)
  | _ => none

/-- The text of the diagnostic. -/
def message : Fault → String
  | .undefinedUse => "undefined value"
  | .notIterable kind => "invalid operation: " ++ kind.name ++ " is not iterable"
  | .notContainer _ => "invalid operation: cannot perform a containment check on this value"
  | .noLength kind => "invalid operation: cannot calculate length of value of type " ++ kind.name
  | .notCallable kind => "invalid operation: value of type " ++ kind.name ++ " is not callable"
  | .notAddable left right =>
    "invalid operation: tried to use + operator on unsupported types " ++ left.name ++ " and " ++
      right.name
  | .notNumber _ => "invalid operation: cannot negate this value"
  | .notMap kind => "invalid operation: " ++ kind.name ++ " is not a map"
  | .unknownFilter name => "unknown filter: filter " ++ name ++ " is unknown"
  | .unknownTest name => "unknown test: test " ++ name ++ " is unknown"
  | .unknownFunction name => "unknown function: " ++ name ++ " is unknown"
  | .unknownMethod name => "unknown method: there is no method named " ++ name
  | .missingArgument => "missing argument"
  | .tooManyArguments => "too many arguments"
  | .rangeTooLong => "invalid operation: range has too many elements"
  | .cannotUnpack _ => "cannot unpack: sequence of wrong length"
  | .notAssignable _ => "invalid operation: can only assign to namespaces"
  | .notRecursive => "invalid operation: cannot recurse outside of recursive loop"
  | .tooDeep => "invalid operation: recursion limit exceeded"
  | .unknownTemplate name => "template not found: template \"" ++ name ++ "\" does not exist"
  | .notOptions kind => "invalid operation: expected an option map, got " ++ kind.name
  | .optionNotText key => "invalid operation: option " ++ key ++ " is not a string"
  | .methodWithout name => "invalid operation: method has no string " ++ name
  | .note text => text

end Fault

end ApiStubs.Template
