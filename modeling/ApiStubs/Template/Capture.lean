import ApiStubs.Template.Syntax

/-!
# The names that a macro takes from outside

A macro remembers the names that its body reads and does not bind itself.  The rule goes by the text
of the body, not by what runs: a name counts as bound from the statement on that binds it, the value
of a binding included, and a binding inside a condition or a loop counts up to the end of that part.
What a macro inside the body binds counts from there on too.  The arguments of filters that a
captured text goes through are not looked at.
-/

namespace ApiStubs.Template

mutual

/-- The names that an expression reads. -/
def Expr.names : Expr → List String
  | .literal _ => []
  | .name text => [text]
  | .list items => namesOfExprs items
  | .member subject _ => subject.names
  | .item subject index => subject.names ++ index.names
  | .negate operand => operand.names
  | .not operand => operand.names
  | .and left right => left.names ++ right.names
  | .or left right => left.names ++ right.names
  | .add left right => left.names ++ right.names
  | .compare first links => first.names ++ namesOfLinks links
  | .filter subject _ arguments => subject.names ++ namesOfExprs arguments
  | .test subject _ arguments => subject.names ++ namesOfExprs arguments
  | .call callee arguments => callee.names ++ namesOfExprs arguments
  | .named entries => namesOfEntries entries

/-- The names that expressions read. -/
def namesOfExprs : List Expr → List String
  | [] => []
  | e :: rest => e.names ++ namesOfExprs rest

/-- The names that the later operands of a comparison read. -/
def namesOfLinks : List (Comparison × Expr) → List String
  | [] => []
  | (_, e) :: rest => e.names ++ namesOfLinks rest

/-- The names that arguments given by name read. -/
def namesOfEntries : List (String × Expr) → List String
  | [] => []
  | (_, e) :: rest => e.names ++ namesOfEntries rest

end

mutual

/-- The names that a target binds. -/
def Target.names : Target → List String
  | .name text => [text]
  | .tuple items => namesOfTargets items
  | .member _ _ => []

/-- The names that targets bind. -/
def namesOfTargets : List Target → List String
  | [] => []
  | target :: rest => target.names ++ namesOfTargets rest

end

/-- The names that are not bound. -/
def without (bound names : List String) : List String := names.filter fun n => !bound.contains n

/-- The names that the defaults of parameters read. -/
def namesOfDefaults : List Parameter → List String
  | [] => []
  | p :: rest => ((p.default.map Expr.names).getD []) ++ namesOfDefaults rest

/-- The name under which a macro finds what called it. -/
def callerName : String := "caller"

mutual

/-- The names that count as bound after a statement.  After a captured text and after a macro, these
are also the names that their own statements bind. -/
def Stmt.binds : Stmt → List String
  | .assign target _ => target.names
  | .capture target _ body => target.names ++ bindsOfStmts body
  | .define name parameters body =>
    name :: callerName :: (parameters.map (·.name) ++ bindsOfStmts body)
  | _ => []

/-- The names that count as bound after statements. -/
def bindsOfStmts : List Stmt → List String
  | [] => []
  | stmt :: rest => stmt.binds ++ bindsOfStmts rest

end

mutual

/-- The names that a statement reads from outside, when `bound` are bound. -/
def Stmt.free (bound : List String) : Stmt → List String
  | .text _ => []
  | .print value => without bound value.names
  | .branch condition yes no =>
    without bound condition.names ++ (freeNames bound yes ++ freeNames bound no)
  | .loop target source body alternative =>
    without ("loop" :: bound) source.names ++
      (freeNames (target.names ++ "loop" :: bound) body ++ freeNames bound alternative)
  | .assign target value => without (target.names ++ bound) value.names
  | .capture target _ body => freeNames (target.names ++ bound) body
  | .define name parameters body =>
    let inside := parameters.map (·.name) ++ callerName :: name :: bound
    without inside (namesOfDefaults parameters) ++ freeNames inside body

/-- The names that statements read from outside, when `bound` are bound. -/
def freeNames (bound : List String) : List Stmt → List String
  | [] => []
  | stmt :: rest => stmt.free bound ++ freeNames (stmt.binds ++ bound) rest

end

/-- The names that a macro reads from outside, each once. -/
def macroNames (parameters : List Parameter) (body : List Stmt) : List String :=
  let bound := parameters.map (·.name)
  (without bound (namesOfDefaults parameters) ++ freeNames bound body).eraseDups

/-- The names that a macro remembers where it is defined. -/
def captures (parameters : List Parameter) (body : List Stmt) : List String :=
  without [callerName] (macroNames parameters body)

/-- Whether a macro asks for what called it. -/
def asksCaller (parameters : List Parameter) (body : List Stmt) : Bool :=
  (macroNames parameters body).contains callerName

end ApiStubs.Template
