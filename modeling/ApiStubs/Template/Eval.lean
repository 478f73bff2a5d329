import ApiStubs.Template.Scope

/-!
# Rendering

Expressions and statements are evaluated by recursion on their structure.  Only a call of a macro
leaves the structure: its body runs with one unit of fuel less, and calls nested beyond a limit
fail, so fuel above that limit is never missed.
-/

namespace ApiStubs.Template

/-- How deep evaluations may be nested. -/
def depthLimit : Nat := 500

/-- What a call of a macro adds to the depth. -/
def callDepth : Nat := 6

/-- How a macro is run: at a depth, in a scope, with arguments. -/
abbrev Invoke : Type := Nat → Scope → Routine → List Value → Except Fault Value

/-- Whether a defined value counts as true. -/
def truth (v : Value) : Except Fault Bool :=
  if v.isUndefined then .error .undefinedUse else .ok v.isTrue

/-- Whether a defined value is contained in another. -/
def contains (container v : Value) : Except Fault Bool :=
  if container.isUndefined || v.isUndefined then .error .undefinedUse
  else
    match v.containedIn? container with
    | none => .error (.notContainer container.kind)
    | some found => .ok found

/-- Whether two defined values are the same. -/
def equals (a b : Value) : Except Fault Bool :=
  if a.isUndefined || b.isUndefined then .error .undefinedUse else .ok (a.same b)

/-- The opposite of an answer. -/
def opposite : Except Fault Bool → Except Fault Bool
  | .error e => .error e
  | .ok b => .ok (!b)

/-- Whether two values compare. -/
def Comparison.holds (a b : Value) : Comparison → Except Fault Bool
  | .equal => equals a b
  | .unequal => opposite (equals a b)
  | .contained => contains b a
  | .notContained => opposite (contains b a)

/-- The sum of two values. -/
def addValues (a b : Value) : Except Fault Value :=
  match a.add? b with
  | some v => .ok v
  | none => .error (.notAddable a.kind b.kind)

/-- A number with the other sign. -/
def negateValue (v : Value) : Except Fault Value :=
  match v.negate? with
  | some n => .ok n
  | none => .error (.notNumber v.kind)

/-- A defined value as it is printed. -/
def printValue (v : Value) : Except Fault String :=
  if v.isUndefined then .error .undefinedUse else .ok v.print

/-- What `debug` shows without arguments: the template that is rendered, the names bound around the
call and the templates that are held.  How this is laid out is not part of the language. -/
def report (setting : Setting) (scope : Scope) : String :=
  let bound := sortedMap (setting.context ++ (scope.flatMap Frame.names).reverse)
  let held := Value.list (setting.held.map .text)
  "State \x7bname: " ++ Text.quoted setting.template ++ ", ctx: " ++ bound.inner ++
    ", templates: " ++
    held.inner ++ "\x7d"

/-- Call a value.  Only `debug` without arguments looks at where it is called. -/
def callValue (setting : Setting) (invoke : Invoke) (scope : Scope) (callee : Value)
    (arguments : List Value) : Except Fault Value :=
  match callee with
  | .function f =>
    if f = .debug && arguments.isEmpty then .ok (.text (report setting scope))
    else f.apply arguments
  | .routine r => invoke setting.depth scope r arguments
  | _ => .error (.notCallable callee.kind)

/-- A name that cannot be called, whatever it is bound to. -/
def uncallableName : String := "super"

/-- Call what a name stands for. -/
def callName (setting : Setting) (invoke : Invoke) (scope : Scope) (name : String)
    (arguments : List Value) : Except Fault Value :=
  if name = uncallableName then .error (.unknownFunction name)
  else
    match lookup? setting scope name with
    | some v => callValue setting invoke scope v arguments
    | none => .error (.unknownFunction name)

/-- Call the member of a value under a name.  A round of a loop picks one of the arguments of
`cycle`. -/
def callMember (setting : Setting) (invoke : Invoke) (scope : Scope) (subject : Value)
    (name : String) (arguments : List Value) : Except Fault Value :=
  match subject with
  | .round _ index _ _ _ =>
    if name = "cycle" then
      match arguments[index % arguments.length]? with
      | some v => .ok v
      | none => .error .missingArgument
    else .error (.unknownMethod name)
  | _ =>
    match subject.member name with
    | .undefined => .error (.unknownMethod name)
    | v => callValue setting invoke scope v arguments

mutual

/-- The value of an expression. -/
def evalExpr (setting : Setting) (invoke : Invoke) (scope : Scope) : Expr → Except Fault Value
  | .literal l => .ok l.value
  | .name n => .ok ((lookup? setting scope n).getD .undefined)
  | .list items =>
    match evalExprs setting invoke scope items with
    | .error e => .error e
    | .ok values => .ok (.list values)
  | .member subject name =>
    match evalExpr setting invoke scope subject with
    | .error e => .error e
    | .ok v => if v.isUndefined then .error .undefinedUse else .ok (v.member name)
  | .item subject index =>
    match evalExpr setting invoke scope subject with
    | .error e => .error e
    | .ok v =>
      match evalExpr setting invoke scope index with
      | .error e => .error e
      | .ok i => if v.isUndefined then .error .undefinedUse else .ok (v.item i)
  | .negate operand =>
    match evalExpr setting invoke scope operand with
    | .error e => .error e
    | .ok v => negateValue v
  | .not operand =>
    match evalExpr setting invoke scope operand with
    | .error e => .error e
    | .ok v =>
      match truth v with
      | .error e => .error e
      | .ok b => .ok (.bool (!b))
  | .and left right =>
    match right.constant?, left.constant? with
    | some b, some a => .ok (constantAnd a b)
    | _, _ =>
      match evalExpr setting invoke scope left with
      | .error e => .error e
      | .ok v =>
        match truth v with
        | .error e => .error e
        | .ok true => evalExpr setting invoke scope right
        | .ok false => .ok v
  | .or left right =>
    match evalExpr setting invoke scope left with
    | .error e => .error e
    | .ok v =>
      match truth v with
      | .error e => .error e
      | .ok true => .ok v
      | .ok false => evalExpr setting invoke scope right
  | .add left right =>
    match evalExpr setting invoke scope left with
    | .error e => .error e
    | .ok a =>
      match evalExpr setting invoke scope right with
      | .error e => .error e
      | .ok b => addValues a b
  | .compare first links =>
    match evalExpr setting invoke scope first with
    | .error e => .error e
    | .ok v => evalLinks setting invoke scope v links
  | .filter subject name arguments =>
    match evalExpr setting invoke scope subject with
    | .error e => .error e
    | .ok v =>
      match evalExprs setting invoke scope arguments with
      | .error e => .error e
      | .ok values => applyFilter setting.language name v values
  | .test subject name arguments =>
    match evalExpr setting invoke scope subject with
    | .error e => .error e
    | .ok v =>
      match evalExprs setting invoke scope arguments with
      | .error e => .error e
      | .ok values => applyTest name v values
  | .call (.name n) arguments =>
    match evalExprs setting invoke scope arguments with
    | .error e => .error e
    | .ok values => callName setting invoke scope n values
  | .call (.member (.name "self") n) _ => .error (.unknownMethod n)
  | .call (.member subject n) arguments =>
    match evalExpr setting invoke scope subject with
    | .error e => .error e
    | .ok v =>
      match evalExprs setting invoke scope arguments with
      | .error e => .error e
      | .ok values => callMember setting invoke scope v n values
  | .call callee arguments =>
    match evalExpr setting invoke scope callee with
    | .error e => .error e
    | .ok v =>
      match evalExprs setting invoke scope arguments with
      | .error e => .error e
      | .ok values => callValue setting invoke scope v values
  | .named entries =>
    match evalEntries setting invoke scope [] entries with
    | .error e => .error e
    | .ok values => .ok (.named values)

/-- The values of expressions, in order. -/
def evalExprs (setting : Setting) (invoke : Invoke) (scope : Scope) :
    List Expr → Except Fault (List Value)
  | [] => .ok []
  | e :: rest =>
    match evalExpr setting invoke scope e with
    | .error f => .error f
    | .ok v =>
      match evalExprs setting invoke scope rest with
      | .error f => .error f
      | .ok values => .ok (v :: values)

/-- Whether a value compares with the next operand, that one with the next, and so on; operands
after a comparison that fails are not evaluated. -/
def evalLinks (setting : Setting) (invoke : Invoke) (scope : Scope) (left : Value) :
    List (Comparison × Expr) → Except Fault Value
  | [] => .ok (.bool true)
  | (op, e) :: rest =>
    match evalExpr setting invoke scope e with
    | .error f => .error f
    | .ok right =>
      match op.holds left right with
      | .error f => .error f
      | .ok false => .ok (.bool false)
      | .ok true => evalLinks setting invoke scope right rest

/-- The values of arguments given by name, in the order of the names, with those already evaluated;
of two with one name the later counts. -/
def evalEntries (setting : Setting) (invoke : Invoke) (scope : Scope) (done : Names) :
    List (String × Expr) → Except Fault Names
  | [] => .ok done
  | (name, e) :: rest =>
    match evalExpr setting invoke scope e with
    | .error f => .error f
    | .ok v => evalEntries setting invoke scope (SortedMap.insertEntry name v done) rest

end

@[simp]
theorem evalExpr_name (setting : Setting) (invoke : Invoke) (scope : Scope) (n : String) :
    evalExpr setting invoke scope (.name n) = .ok ((lookup? setting scope n).getD .undefined) := by
  rw [evalExpr]

/-- The value of a captured text after filters. -/
def runFilters (setting : Setting) (invoke : Invoke) (scope : Scope) (subject : Value) :
    List (String × List Expr) → Except Fault Value
  | [] => .ok subject
  | (name, arguments) :: rest =>
    match evalExprs setting invoke scope arguments with
    | .error e => .error e
    | .ok values =>
      match applyFilter setting.language name subject values with
      | .error e => .error e
      | .ok v => runFilters setting invoke scope v rest

mutual

/-- The frame with a target bound to a value. -/
def bindTarget (frame : Frame) (v : Value) : Target → Except Fault Frame
  | .name text => .ok (frame.bind text v)
  | .tuple items =>
    match v.parts? with
    | none => .error (.cannotUnpack v.kind)
    | some values =>
      if values.length = items.length then bindTargets frame values items
      else .error (.cannotUnpack v.kind)
  | .member _ name => .error (.notAssignable name)

/-- The frame with targets bound to values, one for each. -/
def bindTargets (frame : Frame) (values : List Value) : List Target → Except Fault Frame
  | [] => .ok frame
  | target :: rest =>
    match bindTarget frame (values.head?.getD .undefined) target with
    | .error e => .error e
    | .ok next => bindTargets next values.tail rest

end

/-- Run the rounds of a loop.  Names bound in a round are gone in the next one; what the macros of
the frame remember stays. -/
def runRounds (target : Target) (home : Nat) (length : Option Nat)
    (body : Frame → Except Fault (Frame × String)) :
    Nat → Frame → Value → List Value → Except Fault String
  | _, _, _, [] => .ok ""
  | index, frame, previous, v :: rest =>
    let round := Value.round home index length previous (rest.head?.getD .undefined)
    match bindTarget { frame with names := [], round := some round } v target with
    | .error e => .error e
    | .ok entered =>
      match body entered with
      | .error e => .error e
      | .ok (left, written) =>
        match runRounds target home length body (index + 1) left v rest with
        | .error e => .error e
        | .ok more => .ok (written ++ more)

/-- The arguments of a call that, where it is printed, would start a loop anew from inside: `loop`
with one argument. -/
def restartArguments? : Expr → Option (List Expr)
  | .call (.name "loop") [.named [entry]] => some [.named [entry]]
  | .call (.name "loop") [.named _] => none
  | .call (.name "loop") [argument] => some [argument]
  | _ => none

/-- The printed form of an expression.  No loop lets itself be started anew. -/
def printExpr (setting : Setting) (invoke : Invoke) (scope : Scope) (value : Expr) :
    Except Fault String :=
  match restartArguments? value with
  | some arguments =>
    match evalExprs setting invoke scope arguments with
    | .error e => .error e
    | .ok _ => .error .notRecursive
  | none =>
    match evalExpr setting invoke scope value with
    | .error e => .error e
    | .ok v => printValue v

mutual

/-- Run a statement in the innermost frame: the frame after it, and what it wrote. -/
def runStmt (setting : Setting) (invoke : Invoke) (frame : Frame) (outer : Scope) :
    Stmt → Except Fault (Frame × String)
  | .text content => .ok (frame, String.ofList content)
  | .print value =>
    match printExpr setting invoke (frame :: outer) value with
    | .error e => .error e
    | .ok written => .ok (frame, written)
  | .branch condition yes no =>
    match evalExpr setting invoke (frame :: outer) condition with
    | .error e => .error e
    | .ok v =>
      match truth v with
      | .error e => .error e
      | .ok true => runStmts setting invoke frame outer yes
      | .ok false => runStmts setting invoke frame outer no
  | .loop target source body alternative =>
    match evalExpr setting invoke (frame :: outer) source with
    | .error e => .error e
    | .ok v =>
      if v.isUndefined then .error .undefinedUse
      else
        match v.items? with
        | none => .error (.notIterable v.kind)
        | some items =>
          if depthLimit < setting.depth then .error .tooDeep
          else if items.isEmpty then runStmts setting invoke frame outer alternative
          else
            match runRounds target (outer.length + 1) v.rounds?
                (fun inside =>
                  runStmts { setting with depth := setting.depth + 1 } invoke inside
                    (frame :: outer) body)
                0 (Frame.opened .inner) .undefined items with
            | .error e => .error e
            | .ok written => .ok (frame, written)
  | .assign target value =>
    match evalExpr setting invoke (frame :: outer) value with
    | .error e => .error e
    | .ok v =>
      match bindTarget frame v target with
      | .error e => .error e
      | .ok next => .ok (next, "")
  | .capture target filters body =>
    match runStmts setting invoke frame outer body with
    | .error e => .error e
    | .ok (next, written) =>
      match runFilters setting invoke (next :: outer) (.text written) filters with
      | .error e => .error e
      | .ok v =>
        match bindTarget next v target with
        | .error e => .error e
        | .ok last => .ok (last, "")
  | .define name parameters body => .ok (frame.define setting outer name parameters body, "")

/-- Run statements in order. -/
def runStmts (setting : Setting) (invoke : Invoke) (frame : Frame) (outer : Scope) :
    List Stmt → Except Fault (Frame × String)
  | [] => .ok (frame, "")
  | stmt :: rest =>
    match runStmt setting invoke frame outer stmt with
    | .error e => .error e
    | .ok (next, written) =>
      match runStmts setting invoke next outer rest with
      | .error e => .error e
      | .ok (last, more) => .ok (last, written ++ more)

end

@[simp]
theorem runStmt_text (setting : Setting) (invoke : Invoke) (frame : Frame) (outer : Scope)
    (content : List Char) :
    runStmt setting invoke frame outer (.text content) = .ok (frame, String.ofList content) := by
  rw [runStmt]

@[simp]
theorem runStmts_nil (setting : Setting) (invoke : Invoke) (frame : Frame) (outer : Scope) :
    runStmts setting invoke frame outer [] = .ok (frame, "") := by
  rw [runStmts]

/-- Arguments paired with parameters: by place, else by name, else undefined.  An argument for which
there is no parameter, and a second one for a parameter, is refused. -/
def pairArguments (named : Names) :
    List Parameter → List Value → Except Fault (List (Parameter × Value))
  | [], [] => .ok []
  | [], _ :: _ => .error .tooManyArguments
  | p :: ps, [] =>
    match pairArguments named ps [] with
    | .error e => .error e
    | .ok rest => .ok ((p, (findEntry p.name named).getD .undefined) :: rest)
  | p :: ps, v :: vs =>
    if (findEntry p.name named).isSome then .error .tooManyArguments
    else
      match pairArguments named ps vs with
      | .error e => .error e
      | .ok rest => .ok ((p, v) :: rest)

/-- Whether every argument given by name has a parameter. -/
def Routine.takes (r : Routine) (named : Names) : Bool :=
  named.all fun entry =>
    r.parameters.any (fun p => p.name == entry.1) ||
      (entry.1 == callerName && asksCaller r.parameters r.body)

/-- Bind parameters from the last to the first; a default stands in for an undefined argument and
sees the parameters after it. -/
def bindParameters (setting : Setting) (invoke : Invoke) (frame : Frame) (outer : Scope) :
    List (Parameter × Value) → Except Fault Frame
  | [] => .ok frame
  | (p, v) :: rest =>
    match bindParameters setting invoke frame outer rest with
    | .error e => .error e
    | .ok later =>
      match p.default, v with
      | some e, .undefined =>
        match evalExpr setting invoke (later :: outer) e with
        | .error f => .error f
        | .ok w => .ok (later.bind p.name w)
      | _, _ => .ok (later.bind p.name v)

/-- The frame of a call before its parameters are bound. -/
def callFrame (r : Routine) (named : Names) : Frame :=
  let frame := Frame.opened (.call r.home)
  if asksCaller r.parameters r.body then
    frame.bind callerName ((findEntry callerName named).getD .undefined)
  else frame

/-- Run a macro, with fuel for the calls nested in it. -/
def invokeMacro (setting : Setting) : Nat → Invoke
  | 0, _, _, _, _ => .error .tooDeep
  | fuel + 1, depth, scope, r, arguments =>
    let inside : Setting := { setting with depth := depth + callDepth }
    let invoke := invokeMacro setting fuel
    let (placed, named) := splitArguments arguments
    match pairArguments named r.parameters placed with
    | .error e => .error e
    | .ok paired =>
      if !r.takes named then .error .tooManyArguments
      else if depthLimit < inside.depth then .error .tooDeep
      else
        match bindParameters inside invoke (callFrame r named) scope paired with
        | .error e => .error e
        | .ok frame =>
          match runStmts inside invoke frame scope r.body with
          | .error e => .error e
          | .ok (_, written) => .ok (.text written)

/-- Render a template against a context, under its name and among the templates that are held. -/
def render (language : Language) (name : String) (held : List String) (context : Names)
    (stmts : List Stmt) : Except Fault String :=
  let setting : Setting := ⟨language, name, held, context, 1⟩
  match runStmts setting (invokeMacro setting (depthLimit / callDepth + 1)) (Frame.opened .inner) []
      stmts with
  | .error e => .error e
  | .ok (_, written) => .ok written

end ApiStubs.Template
