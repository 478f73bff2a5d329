import ApiStubs.Template.Token

/-!
# From tokens to a template

A part of the Jinja language is read, the one that the library of templates lists; what stands
outside of it is refused where it starts.  Operators bind, from loose to tight: `or`, `and`, `not`,
comparisons and membership, `+`, the unary minus, then attributes, items and calls, then filters and
tests.  Word operators are ordinary names wherever an operand is due.  Expressions, their innermost
operands and statements may be nested up to a limit; the condition of a branch and the source of a
loop are on the level of their statement.  Every call spends one unit of fuel, and a source has
sixteen units for each of its tokens, more than it can use up.
-/

namespace ApiStubs.Template

/-- A step of parsing: a result and the tokens after it. -/
abbrev Parse (α : Type) : Type := Except SyntaxFault (α × List Token)

/-- The token that has to come next. -/
def expect (token : Token) (expected : String) : List Token → Except SyntaxFault (List Token)
  | [] => .error (.unexpectedEnd expected)
  | t :: rest => if t = token then .ok rest else .error (.unexpectedToken expected)

/-- The name that has to come next. -/
def expectName : List Token → Parse String
  | [] => .error (.unexpectedEnd "identifier")
  | .name n :: rest => .ok (n, rest)
  | _ :: _ => .error (.unexpectedToken "identifier")

/-- Names that stand for something already. -/
def reservedNames : List String :=
  ["true", "True", "false", "False", "none", "None", "loop", "self"]

/-- A name that may be bound. -/
def targetName (tokens : List Token) : Parse String :=
  match expectName tokens with
  | .error e => .error e
  | .ok (n, rest) => if reservedNames.contains n then .error (.reservedName n) else .ok (n, rest)

/-- Whether the token ends a list of targets. -/
def endsTargets : List Token → Bool
  | .symbol ")" :: _ => true
  | .printClose :: _ => true
  | .blockClose :: _ => true
  | .name "in" :: _ => true
  | _ => false

/-- One target that is the only one, or a tuple. -/
def tupleOf (comma : Bool) : List Target → Target
  | [target] => if comma then .tuple [target] else target
  | targets => .tuple targets

/-- Members after a name that is bound. -/
def memberTarget (subject : Target) : List Token → Parse Target
  | .symbol "." :: .name n :: rest => memberTarget (.member subject n) rest
  | .symbol "." :: _ => .error (.unexpectedToken "identifier")
  | tokens => .ok (subject, tokens)

mutual

/-- A target: a name, or targets with commas between them.  Outside brackets, a binding may name
members. -/
def parseTarget : Nat → Bool → List Token → Parse Target
  | 0, _, _ => .error .tooDeep
  | fuel + 1, members, tokens =>
    match parseTargets fuel members tokens with
    | .error e => .error e
    | .ok ((comma, targets), rest) => .ok (tupleOf comma targets, rest)

/-- Targets, and whether there was a comma. -/
def parseTargets : Nat → Bool → List Token → Parse (Bool × List Target)
  | 0, _, _ => .error .tooDeep
  | fuel + 1, members, tokens =>
    if endsTargets tokens then .ok ((false, []), tokens)
    else
      match parseOneTarget fuel members tokens with
      | .error e => .error e
      | .ok (target, .symbol "," :: rest) =>
        match parseTargets fuel members rest with
        | .error e => .error e
        | .ok ((_, targets), rest) => .ok ((true, target :: targets), rest)
      | .ok (target, rest) => .ok ((false, [target]), rest)

/-- A name, or targets in brackets. -/
def parseOneTarget : Nat → Bool → List Token → Parse Target
  | 0, _, _ => .error .tooDeep
  | fuel + 1, members, tokens =>
    match tokens with
    | .symbol "(" :: rest =>
      match parseTarget fuel false rest with
      | .error e => .error e
      | .ok (target, rest) =>
        match expect (.symbol ")") "`)`" rest with
        | .error e => .error e
        | .ok rest => .ok (target, rest)
    | _ =>
      match targetName tokens with
      | .error e => .error e
      | .ok (n, rest) => if members then memberTarget (.name n) rest else .ok (.name n, rest)

end

/-- A name as an operand: a constant, or a variable. -/
def nameOperand (n : String) : Expr :=
  if n = "true" || n = "True" then .literal (.bool true)
  else if n = "false" || n = "False" then .literal (.bool false)
  else if n = "none" || n = "None" then .literal .none
  else .name n

/-- Neighbouring texts make one text. -/
def joinTexts (content : String) : List Token → String × List Token
  | .text more :: rest => joinTexts (content ++ more) rest
  | tokens => (content, tokens)

/-- The comparison that comes next. -/
def comparison? : List Token → Option (Comparison × List Token)
  | .symbol "==" :: rest => some (.equal, rest)
  | .symbol "!=" :: rest => some (.unequal, rest)
  | .name "in" :: rest => some (.contained, rest)
  | .name "not" :: .name "in" :: rest => some (.notContained, rest)
  | _ => none

/-- Words that go on with an expression after a test. -/
def joiningWords : List String := ["and", "or", "else", "is"]

/-- Whether the token can start the single argument of a test written without brackets. -/
def startsArgument : Token → Bool
  | .name n => !joiningWords.contains n
  | .text _ => true
  | .int _ => true
  | .float _ => true
  | .symbol s => s = "[" || s = "-" || s = "+" || s = "\x7b"
  | _ => false

/-- A name with more names after points. -/
def dottedName (name : String) : List Token → Parse String
  | .symbol "." :: .name more :: rest => dottedName (name ++ "." ++ more) rest
  | .symbol "." :: _ => .error (.unexpectedToken "identifier")
  | tokens => .ok (name, tokens)

/-- The name of a filter or a test. -/
def callableName (tokens : List Token) : Parse String :=
  match expectName tokens with
  | .error e => .error e
  | .ok (n, rest) => dottedName n rest

/-- How deep expressions and statements may be nested. -/
def nestingLimit : Nat := 150

/-- The depth one level further in. -/
def deeper (depth : Nat) : Except SyntaxFault Nat :=
  if nestingLimit ≤ depth then .error .tooDeep else .ok (depth + 1)

/-- Whether a call ends here, and the tokens after its end or after the comma before the next
argument. -/
def nextArgument (first : Bool) (tokens : List Token) : Parse Bool :=
  match tokens with
  | .symbol ")" :: rest => .ok (true, rest)
  | _ =>
    if first then .ok (false, tokens)
    else
      match expect (.symbol ",") "`,`" tokens with
      | .error e => .error e
      | .ok (.symbol ")" :: rest) => .ok (true, rest)
      | .ok rest => .ok (false, rest)

/-- How many arguments a call may have. -/
def argumentLimit : Nat := 2000

mutual

/-- An expression, one level further in. -/
def parseExpr : Nat → Nat → List Token → Parse Expr
  | 0, _, _ => .error .tooDeep
  | fuel + 1, depth, tokens =>
    match deeper depth with
    | .error e => .error e
    | .ok depth => parseOr fuel depth tokens

/-- An expression, on the level of what it stands in. -/
def parseOr : Nat → Nat → List Token → Parse Expr
  | 0, _, _ => .error .tooDeep
  | fuel + 1, depth, tokens =>
    match parseAnd fuel depth tokens with
    | .error e => .error e
    | .ok (left, rest) => parseOrTail fuel depth left rest

/-- More operands of `or`. -/
def parseOrTail : Nat → Nat → Expr → List Token → Parse Expr
  | 0, _, _, _ => .error .tooDeep
  | fuel + 1, depth, left, tokens =>
    match tokens with
    | .name "or" :: rest =>
      match parseAnd fuel depth rest with
      | .error e => .error e
      | .ok (right, rest) => parseOrTail fuel depth (.or left right) rest
    | _ => .ok (left, tokens)

/-- An operand of `or`. -/
def parseAnd : Nat → Nat → List Token → Parse Expr
  | 0, _, _ => .error .tooDeep
  | fuel + 1, depth, tokens =>
    match parseNot fuel depth tokens with
    | .error e => .error e
    | .ok (left, rest) => parseAndTail fuel depth left rest

/-- More operands of `and`. -/
def parseAndTail : Nat → Nat → Expr → List Token → Parse Expr
  | 0, _, _, _ => .error .tooDeep
  | fuel + 1, depth, left, tokens =>
    match tokens with
    | .name "and" :: rest =>
      match parseNot fuel depth rest with
      | .error e => .error e
      | .ok (right, rest) => parseAndTail fuel depth (.and left right) rest
    | _ => .ok (left, tokens)

/-- An operand of `and`. -/
def parseNot : Nat → Nat → List Token → Parse Expr
  | 0, _, _ => .error .tooDeep
  | fuel + 1, depth, tokens =>
    match tokens with
    | .name "not" :: rest =>
      match parseNot fuel depth rest with
      | .error e => .error e
      | .ok (operand, rest) => .ok (.not operand, rest)
    | _ =>
      match parseSum fuel depth tokens with
      | .error e => .error e
      | .ok (first, rest) =>
        match parseLinks fuel depth rest with
        | .error e => .error e
        | .ok ([], rest) => .ok (first, rest)
        | .ok (link :: links, rest) => .ok (.compare first (link :: links), rest)

/-- The later operands of a comparison. -/
def parseLinks : Nat → Nat → List Token → Parse (List (Comparison × Expr))
  | 0, _, _ => .error .tooDeep
  | fuel + 1, depth, tokens =>
    match comparison? tokens with
    | none => .ok ([], tokens)
    | some (op, rest) =>
      match parseSum fuel depth rest with
      | .error e => .error e
      | .ok (right, rest) =>
        match parseLinks fuel depth rest with
        | .error e => .error e
        | .ok (links, rest) => .ok ((op, right) :: links, rest)

/-- An operand of a comparison. -/
def parseSum : Nat → Nat → List Token → Parse Expr
  | 0, _, _ => .error .tooDeep
  | fuel + 1, depth, tokens =>
    match parseUnary fuel depth tokens with
    | .error e => .error e
    | .ok (left, rest) => parseSumTail fuel depth left rest

/-- More operands of `+`. -/
def parseSumTail : Nat → Nat → Expr → List Token → Parse Expr
  | 0, _, _, _ => .error .tooDeep
  | fuel + 1, depth, left, tokens =>
    match tokens with
    | .symbol "+" :: rest =>
      match parseUnary fuel depth rest with
      | .error e => .error e
      | .ok (right, rest) => parseSumTail fuel depth (.add left right) rest
    | _ => .ok (left, tokens)

/-- An operand of `+`. -/
def parseUnary : Nat → Nat → List Token → Parse Expr
  | 0, _, _ => .error .tooDeep
  | fuel + 1, depth, tokens =>
    match parseSigned fuel depth tokens with
    | .error e => .error e
    | .ok (subject, rest) =>
      match parseTrailers fuel depth subject rest with
      | .error e => .error e
      | .ok (subject, rest) => parseFilters fuel depth subject rest

/-- A primary after any number of minus signs. -/
def parseSigned : Nat → Nat → List Token → Parse Expr
  | 0, _, _ => .error .tooDeep
  | fuel + 1, depth, tokens =>
    match tokens with
    | .symbol "-" :: rest =>
      match parseSigned fuel depth rest with
      | .error e => .error e
      | .ok (operand, rest) => .ok (.negate operand, rest)
    | _ => parsePrimary fuel depth tokens

/-- A constant, a name, a list, or an expression in brackets. -/
def parsePrimary : Nat → Nat → List Token → Parse Expr
  | 0, _, _ => .error .tooDeep
  | fuel + 1, depth, tokens =>
    match deeper depth with
    | .error e => .error e
    | .ok depth =>
      match tokens with
      | [] => .error (.unexpectedEnd "expression")
      | .name n :: rest => .ok (nameOperand n, rest)
      | .text s :: rest =>
        let (content, rest) := joinTexts s rest
        .ok (.literal (.text content), rest)
      | .int n :: rest => .ok (.literal (.int n), rest)
      | .float x :: rest => .ok (.literal (.float x), rest)
      | .symbol "(" :: rest => parseBracket fuel depth rest
      | .symbol "[" :: rest =>
        match parseItems fuel depth "]" true rest with
        | .error e => .error e
        | .ok (items, rest) => .ok (.list items, rest)
      | _ :: _ => .error (.unexpectedToken "expression")

/-- What stands in round brackets: nothing or several expressions make a list, a single one stands
for itself. -/
def parseBracket : Nat → Nat → List Token → Parse Expr
  | 0, _, _ => .error .tooDeep
  | fuel + 1, depth, tokens =>
    match tokens with
    | .symbol ")" :: rest => .ok (.list [], rest)
    | _ =>
      match parseExpr fuel depth tokens with
      | .error e => .error e
      | .ok (inner, .symbol "," :: rest) =>
        match parseItems fuel depth ")" false (.symbol "," :: rest) with
        | .error e => .error e
        | .ok (items, rest) => .ok (.list (inner :: items), rest)
      | .ok (inner, rest) =>
        match expect (.symbol ")") "`)`" rest with
        | .error e => .error e
        | .ok rest => .ok (inner, rest)

/-- Expressions separated by commas up to a closing symbol; a comma may stand before it. -/
def parseItems : Nat → Nat → String → Bool → List Token → Parse (List Expr)
  | 0, _, _, _, _ => .error .tooDeep
  | fuel + 1, depth, close, first, tokens =>
    match tokens with
    | [] => .error (.unexpectedEnd close)
    | t :: rest =>
      if t = .symbol close then .ok ([], rest)
      else
        match (if first then .ok tokens else expect (.symbol ",") "`,`" tokens) with
        | .error e => .error e
        | .ok start =>
          match start with
          | [] => .error (.unexpectedEnd close)
          | u :: more =>
            if !first ∧ u = .symbol close then .ok ([], more)
            else
              match parseExpr fuel depth start with
              | .error e => .error e
              | .ok (item, rest) =>
                match parseItems fuel depth close false rest with
                | .error e => .error e
                | .ok (items, rest) => .ok (item :: items, rest)

/-- The arguments of a call after its opening bracket: those given by place, then those given by
name. -/
def parseArguments : Nat → Nat → List Token → Parse (List Expr)
  | 0, _, _ => .error .tooDeep
  | fuel + 1, depth, tokens =>
    match parsePlaced fuel depth true tokens with
    | .error e => .error e
    | .ok ((items, entries), rest) =>
      if argumentLimit < items.length + entries.length then .error .tooManyArguments
      else if entries.isEmpty then .ok (items, rest)
      else .ok (items ++ [.named entries], rest)

/-- Arguments up to the closing bracket; a name before an equals sign starts those given by name. -/
def parsePlaced : Nat → Nat → Bool → List Token → Parse (List Expr × List (String × Expr))
  | 0, _, _, _ => .error .tooDeep
  | fuel + 1, depth, first, tokens =>
    match nextArgument first tokens with
    | .error e => .error e
    | .ok (true, rest) => .ok (([], []), rest)
    | .ok (false, start) =>
      match parseExpr fuel depth start with
      | .error e => .error e
      | .ok (.name n, .symbol "=" :: rest) =>
        match parseExpr fuel depth rest with
        | .error e => .error e
        | .ok (value, rest) =>
          match parseNamed fuel depth rest with
          | .error e => .error e
          | .ok (entries, rest) => .ok (([], (n, value) :: entries), rest)
      | .ok (item, rest) =>
        match parsePlaced fuel depth false rest with
        | .error e => .error e
        | .ok ((items, entries), rest) => .ok ((item :: items, entries), rest)

/-- More arguments given by name. -/
def parseNamed : Nat → Nat → List Token → Parse (List (String × Expr))
  | 0, _, _ => .error .tooDeep
  | fuel + 1, depth, tokens =>
    match nextArgument false tokens with
    | .error e => .error e
    | .ok (true, rest) => .ok ([], rest)
    | .ok (false, start) =>
      match parseExpr fuel depth start with
      | .error e => .error e
      | .ok (.name n, .symbol "=" :: rest) =>
        match parseExpr fuel depth rest with
        | .error e => .error e
        | .ok (value, rest) =>
          match parseNamed fuel depth rest with
          | .error e => .error e
          | .ok (entries, rest) => .ok ((n, value) :: entries, rest)
      | .ok _ => .error (.unexpectedToken "keyword argument")

/-- Attributes, items and calls after a primary. -/
def parseTrailers : Nat → Nat → Expr → List Token → Parse Expr
  | 0, _, _, _ => .error .tooDeep
  | fuel + 1, depth, subject, tokens =>
    match tokens with
    | .symbol "." :: .int n :: rest =>
      if n < Nat.pow 2 64 then parseTrailers fuel depth (.item subject (.literal (.int n))) rest
      else .error (.unexpectedToken "identifier")
    | .symbol "." :: rest =>
      match expectName rest with
      | .error e => .error e
      | .ok (n, rest) => parseTrailers fuel depth (.member subject n) rest
    | .symbol "[" :: rest =>
      match parseExpr fuel depth rest with
      | .error e => .error e
      | .ok (index, rest) =>
        match expect (.symbol "]") "`]`" rest with
        | .error e => .error e
        | .ok rest => parseTrailers fuel depth (.item subject index) rest
    | .symbol "(" :: rest =>
      match parseArguments fuel depth rest with
      | .error e => .error e
      | .ok (arguments, rest) => parseTrailers fuel depth (.call subject arguments) rest
    | _ => .ok (subject, tokens)

/-- Filters and tests after an operand. -/
def parseFilters : Nat → Nat → Expr → List Token → Parse Expr
  | 0, _, _, _ => .error .tooDeep
  | fuel + 1, depth, subject, tokens =>
    match tokens with
    | .symbol "|" :: rest =>
      match callableName rest with
      | .error e => .error e
      | .ok (n, .symbol "(" :: rest) =>
        match parseArguments fuel depth rest with
        | .error e => .error e
        | .ok (arguments, rest) => parseFilters fuel depth (.filter subject n arguments) rest
      | .ok (n, rest) => parseFilters fuel depth (.filter subject n []) rest
    | .name "is" :: rest =>
      let (negated, rest) :=
        match rest with
        | .name "not" :: more => (true, more)
        | _ => (false, rest)
      match callableName rest with
      | .error e => .error e
      | .ok (n, rest) =>
        match parseTestArguments fuel depth rest with
        | .error e => .error e
        | .ok (arguments, rest) =>
          let tested := Expr.test subject n arguments
          parseFilters fuel depth (if negated then .not tested else tested) rest
    | _ => .ok (subject, tokens)

/-- The arguments of a test: in brackets, or one operand. -/
def parseTestArguments : Nat → Nat → List Token → Parse (List Expr)
  | 0, _, _ => .error .tooDeep
  | fuel + 1, depth, tokens =>
    match tokens with
    | .symbol "(" :: rest => parseArguments fuel depth rest
    | t :: _ =>
      if startsArgument t then
        match parseSigned fuel depth tokens with
        | .error e => .error e
        | .ok (argument, rest) =>
          match parseTrailers fuel depth argument rest with
          | .error e => .error e
          | .ok (argument, rest) => .ok ([argument], rest)
      else .ok ([], tokens)
    | [] => .ok ([], tokens)

end

/-- The parameters of a macro after its opening bracket.  Once a parameter has a default, so has
every one after it. -/
def parseParameters : Nat → Nat → Bool → Bool → List Token → Parse (List Parameter)
  | 0, _, _, _, _ => .error .tooDeep
  | fuel + 1, depth, first, defaulted, tokens =>
    match tokens with
    | .symbol ")" :: rest => .ok ([], rest)
    | _ =>
      match (if first then .ok tokens else expect (.symbol ",") "`,`" tokens) with
      | .error e => .error e
      | .ok (.symbol ")" :: rest) =>
        if first then .error (.unexpectedToken "identifier") else .ok ([], rest)
      | .ok start =>
        match targetName start with
        | .error e => .error e
        | .ok (n, .symbol "=" :: rest) =>
          match parseExpr fuel depth rest with
          | .error e => .error e
          | .ok (value, rest) =>
            match parseParameters fuel depth false true rest with
            | .error e => .error e
            | .ok (more, rest) => .ok (⟨n, some value⟩ :: more, rest)
        | .ok (n, rest) =>
          if defaulted then .error (.unexpectedToken "`=`")
          else
            match parseParameters fuel depth false false rest with
            | .error e => .error e
            | .ok (more, rest) => .ok (⟨n, none⟩ :: more, rest)

/-- One statement before the statements that follow it. -/
def followedBy (stmt : Stmt) :
    Parse (List Stmt × Option String) → Parse (List Stmt × Option String)
  | .error e => .error e
  | .ok ((stmts, stop), rest) => .ok ((stmt :: stmts, stop), rest)

mutual

/-- Statements up to a tag with one of the stopping words, or up to the end of the source.  With a
stopping word, the tokens after it come back too. -/
def parseBody : Nat → Nat → List String → List Token → Parse (List Stmt × Option String)
  | 0, _, _, _ => .error .tooDeep
  | fuel + 1, depth, stops, tokens =>
    match tokens with
    | [] => .ok (([], none), [])
    | .data content :: rest => followedBy (.text content) (parseBody fuel depth stops rest)
    | .printOpen :: rest =>
      match parseExpr fuel depth rest with
      | .error e => .error e
      | .ok (value, rest) =>
        match expect .printClose "end of variable block" rest with
        | .error e => .error e
        | .ok rest => followedBy (.print value) (parseBody fuel depth stops rest)
    | .blockOpen :: .name word :: rest =>
      if stops.contains word then .ok (([], some word), rest)
      else
        match deeper depth with
        | .error e => .error e
        | .ok inner =>
          match parseStmt fuel inner word rest with
          | .error e => .error e
          | .ok (stmt, rest) =>
            match expect .blockClose "end of block" rest with
            | .error e => .error e
            | .ok rest => followedBy stmt (parseBody fuel depth stops rest)
    | _ :: _ => .error (.unexpectedToken "statement")

/-- A statement after its word, up to the end of its closing word. -/
def parseStmt : Nat → Nat → String → List Token → Parse Stmt
  | 0, _, _, _ => .error .tooDeep
  | fuel + 1, depth, word, tokens =>
    if word = "if" then parseBranch fuel depth tokens
    else if word = "for" then
      match parseTarget fuel false tokens with
      | .error e => .error e
      | .ok (target, rest) =>
        match expect (.name "in") "in" rest with
        | .error e => .error e
        | .ok rest =>
          match parseOr fuel depth rest with
          | .error e => .error e
          | .ok (source, rest) => parseLoop fuel depth target source rest
    else if word = "set" then parseSet fuel depth tokens
    else if word = "macro" then
      match expectName tokens with
      | .error e => .error e
      | .ok (n, rest) =>
        match expect (.symbol "(") "`(`" rest with
        | .error e => .error e
        | .ok rest =>
          match parseParameters fuel depth true false rest with
          | .error e => .error e
          | .ok (parameters, rest) =>
            match expect .blockClose "end of block" rest with
            | .error e => .error e
            | .ok rest =>
              match parseBody fuel depth ["endmacro"] rest with
              | .error e => .error e
              | .ok ((body, some _), rest) => .ok (.define n parameters body, rest)
              | .ok ((_, none), _) => .error (.unexpectedEnd "end of macro")
    else .error (.unknownStatement word)

/-- A binding after its word: of a value, or of what the statements up to its closing word write.
Targets in brackets take a value only. -/
def parseSet : Nat → Nat → List Token → Parse Stmt
  | 0, _, _ => .error .tooDeep
  | fuel + 1, depth, tokens =>
    match parseTarget fuel true tokens with
    | .error e => .error e
    | .ok (target, rest) =>
      if tokens.head? = some (.symbol "(") then parseBinding fuel depth target rest
      else
        match rest with
        | .blockClose :: rest => parseCapture fuel depth target [] rest
        | .symbol "|" :: rest =>
          match parseFilterChain fuel depth true rest with
          | .error e => .error e
          | .ok ([], _) => .error (.unexpectedToken "identifier")
          | .ok (filters, rest) => parseCapture fuel depth target filters rest
        | _ => parseBinding fuel depth target rest

/-- The value of a binding; several make a list. -/
def parseBinding : Nat → Nat → Target → List Token → Parse Stmt
  | 0, _, _, _ => .error .tooDeep
  | fuel + 1, depth, target, tokens =>
    match expect (.symbol "=") "`=`" tokens with
    | .error e => .error e
    | .ok rest =>
      match parseExpr fuel depth rest with
      | .error e => .error e
      | .ok (value, .symbol "," :: rest) =>
        match parseMoreValues fuel depth (.symbol "," :: rest) with
        | .error e => .error e
        | .ok (values, rest) => .ok (.assign target (.list (value :: values)), rest)
      | .ok (value, rest) => .ok (.assign target value, rest)

/-- More values of a binding, each after a comma; a comma may stand at the end. -/
def parseMoreValues : Nat → Nat → List Token → Parse (List Expr)
  | 0, _, _ => .error .tooDeep
  | fuel + 1, depth, tokens =>
    match tokens with
    | .symbol "," :: .blockClose :: rest => .ok ([], .blockClose :: rest)
    | .symbol "," :: rest =>
      match parseExpr fuel depth rest with
      | .error e => .error e
      | .ok (value, rest) =>
        match parseMoreValues fuel depth rest with
        | .error e => .error e
        | .ok (values, rest) => .ok (value :: values, rest)
    | _ => .ok ([], tokens)

/-- Filters up to the end of the tag. -/
def parseFilterChain : Nat → Nat → Bool → List Token → Parse (List (String × List Expr))
  | 0, _, _, _ => .error .tooDeep
  | fuel + 1, depth, first, tokens =>
    match tokens with
    | .blockClose :: rest => .ok ([], rest)
    | _ =>
      match (if first then .ok tokens else expect (.symbol "|") "`|`" tokens) with
      | .error e => .error e
      | .ok start =>
        match callableName start with
        | .error e => .error e
        | .ok (n, .symbol "(" :: rest) =>
          match parseArguments fuel depth rest with
          | .error e => .error e
          | .ok (arguments, rest) =>
            match parseFilterChain fuel depth false rest with
            | .error e => .error e
            | .ok (filters, rest) => .ok ((n, arguments) :: filters, rest)
        | .ok (n, rest) =>
          match parseFilterChain fuel depth false rest with
          | .error e => .error e
          | .ok (filters, rest) => .ok ((n, []) :: filters, rest)

/-- The statements whose text is bound. -/
def parseCapture : Nat → Nat → Target → List (String × List Expr) → List Token → Parse Stmt
  | 0, _, _, _, _ => .error .tooDeep
  | fuel + 1, depth, target, filters, tokens =>
    match parseBody fuel depth ["endset"] tokens with
    | .error e => .error e
    | .ok ((body, some _), rest) => .ok (.capture target filters body, rest)
    | .ok ((_, none), _) => .error (.unexpectedEnd "end of binding")

/-- A condition after its word. -/
def parseBranch : Nat → Nat → List Token → Parse Stmt
  | 0, _, _ => .error .tooDeep
  | fuel + 1, depth, tokens =>
    match parseOr fuel depth tokens with
    | .error e => .error e
    | .ok (condition, rest) =>
      match expect .blockClose "end of block" rest with
      | .error e => .error e
      | .ok rest =>
        match parseBody fuel depth ["endif", "else", "elif"] rest with
        | .error e => .error e
        | .ok ((yes, some "endif"), rest) => .ok (.branch condition yes [], rest)
        | .ok ((yes, some "elif"), rest) =>
          match parseBranch fuel depth rest with
          | .error e => .error e
          | .ok (next, rest) => .ok (.branch condition yes [next], rest)
        | .ok ((yes, some _), rest) =>
          match expect .blockClose "end of block" rest with
          | .error e => .error e
          | .ok rest =>
            match parseBody fuel depth ["endif"] rest with
            | .error e => .error e
            | .ok ((no, some _), rest) => .ok (.branch condition yes no, rest)
            | .ok ((_, none), _) => .error (.unexpectedEnd "end of condition")
        | .ok ((_, none), _) => .error (.unexpectedEnd "end of condition")

/-- A loop after its source. -/
def parseLoop : Nat → Nat → Target → Expr → List Token → Parse Stmt
  | 0, _, _, _, _ => .error .tooDeep
  | fuel + 1, depth, target, source, tokens =>
    match expect .blockClose "end of block" tokens with
    | .error e => .error e
    | .ok rest =>
      match parseBody fuel depth ["endfor", "else"] rest with
      | .error e => .error e
      | .ok ((body, some "endfor"), rest) => .ok (.loop target source body [], rest)
      | .ok ((body, some _), rest) =>
        match expect .blockClose "end of block" rest with
        | .error e => .error e
        | .ok rest =>
          match parseBody fuel depth ["endfor"] rest with
          | .error e => .error e
          | .ok ((alternative, some _), rest) => .ok (.loop target source body alternative, rest)
          | .ok ((_, none), _) => .error (.unexpectedEnd "end of loop")
      | .ok ((_, none), _) => .error (.unexpectedEnd "end of loop")

end

/-- The statements of a template. -/
def parse (source : List Char) : Except SyntaxFault (List Stmt) :=
  match tokenize source with
  | .error e => .error e
  | .ok tokens =>
    match parseBody (16 * (tokens.length + 1)) 0 [] tokens with
    | .error e => .error e
    | .ok ((stmts, _), _) => .ok stmts

end ApiStubs.Template
