import ApiStubs.Template.Equality

/-!
# Constant expressions

An expression without names, members, filters and calls has its value before anything is rendered.
Where both operands of `and` are constant, a false one makes the whole plainly `false`; otherwise
`and` yields the operand that decides.
-/

namespace ApiStubs.Template

/-- The value of a constant. -/
def Literal.value : Literal → Value
  | .none => .none
  | .bool b => .bool b
  | .int n => Value.ofNat n
  | .float x => .float x
  | .text s => .text s

/-- Whether two constants compare; none if they cannot be compared. -/
def Comparison.holds? (a b : Value) : Comparison → Option Bool
  | .equal => some (a.same b)
  | .unequal => some (!a.same b)
  | .contained => a.containedIn? b
  | .notContained => (a.containedIn? b).map (!·)

/-- The conjunction of two constants. -/
def constantAnd (a b : Value) : Value := if a.isTrue && b.isTrue then b else .bool false

mutual

/-- The value of an expression that is constant. -/
def Expr.constant? : Expr → Option Value
  | .literal l => some l.value
  | .list items => (constants? items).map .list
  | .negate operand => operand.constant?.bind Value.negate?
  | .not operand => operand.constant?.map fun v => .bool (!v.isTrue)
  | .and left right =>
    match right.constant?, left.constant? with
    | some b, some a => some (constantAnd a b)
    | _, _ => Option.none
  | .or left right =>
    match right.constant?, left.constant? with
    | some b, some a => some (if a.isTrue then a else b)
    | _, _ => Option.none
  | .add left right =>
    match right.constant?, left.constant? with
    | some b, some a => a.add? b
    | _, _ => Option.none
  | .compare first links =>
    match first.constant?, constantLinks? links with
    | some a, some operands => compareConstants? a operands
    | _, _ => Option.none
  | _ => Option.none

/-- The values of expressions that are all constant. -/
def constants? : List Expr → Option (List Value)
  | [] => some []
  | e :: rest =>
    match e.constant?, constants? rest with
    | some v, some values => some (v :: values)
    | _, _ => Option.none

/-- The later operands of a comparison, if they are all constant. -/
def constantLinks? : List (Comparison × Expr) → Option (List (Comparison × Value))
  | [] => some []
  | (op, e) :: rest =>
    match e.constant?, constantLinks? rest with
    | some v, some operands => some ((op, v) :: operands)
    | _, _ => Option.none

/-- Whether a constant compares with the next operand, that one with the next, and so on. -/
def compareConstants? (left : Value) : List (Comparison × Value) → Option Value
  | [] => some (.bool true)
  | (op, right) :: rest =>
    match op.holds? left right with
    | Option.none => Option.none
    | some false => some (.bool false)
    | some true => compareConstants? right rest

end

end ApiStubs.Template
