import ApiStubs.Template.Value

/-!
# Arithmetic of template values

Integers are added in 128 bits with a sign, and a sum is kept in 64 bits if it fits.  Truth values
count as zero and one.  With a double-precision number among the operands, the sum is one too.
-/

namespace ApiStubs.Template

namespace Width

/-- The integers of a width: the least one, and one more than the largest. -/
def range : Width → Int × Int
  | .unsigned64 => (0, Int.pow 2 64)
  | .signed64 => (-Int.pow 2 63, Int.pow 2 63)
  | .signed128 => (-Int.pow 2 127, Int.pow 2 127)
  | .unsigned128 => (0, Int.pow 2 128)

/-- The integer of a width that is nearest to an integer. -/
def clamp (width : Width) (n : Int) : Int := max width.range.1 (min n (width.range.2 - 1))

/-- Whether the width holds an integer. -/
def holds (width : Width) (n : Int) : Bool := width.range.1 ≤ n && n < width.range.2

end Width

namespace Value

/-- An integer that arithmetic yields. -/
def ofInt? (n : Int) : Option Value :=
  if Width.signed64.holds n then some (.int .signed64 n)
  else if Width.signed128.holds n then some (.int .signed128 n)
  else Option.none

/-- An integer without a sign, as a template writes it. -/
def ofNat (n : Nat) : Value :=
  .int (if Width.unsigned64.holds n then .unsigned64 else .unsigned128) n

/-- The integer of a value that is one, or a truth value counted as one. -/
def integer? : Value → Option (Width × Int)
  | .int width n => some (width, n)
  | .bool b => some (.signed64, if b then 1 else 0)
  | _ => Option.none

/-- The double-precision number nearest to a value. -/
def double? : Value → Option Double
  | .float x => some x
  | v => v.integer?.map fun entry => Double.ofInt entry.2

/-- An integer of 128 bits read as one with a sign. -/
def wrapped (n : Int) : Int := if Width.signed128.holds n then n else n - Int.pow 2 128

/-- Two integers as arithmetic takes them.  Two of 128 bits without a sign are read as if they had
one; any other pair must fit as it is. -/
def operands? (a b : Width × Int) : Option (Int × Int) :=
  if a.1 = .unsigned128 ∧ b.1 = .unsigned128 then some (wrapped a.2, wrapped b.2)
  else if Width.signed128.holds a.2 && Width.signed128.holds b.2 then some (a.2, b.2)
  else Option.none

/-- The sum of two numbers. -/
def addNumbers? (a b : Value) : Option Value :=
  match a.integer?, b.integer? with
  | some m, some n => (operands? m n).bind fun pair => ofInt? (pair.1 + pair.2)
  | _, _ =>
    match a.double?, b.double? with
    | some x, some y => some (.float (x.add y))
    | _, _ => Option.none

/-- The items of a list or of two lists one after the other, and how many joints there are. -/
def sequence? : Value → Option (Nat × List Value)
  | .list items => some (0, items)
  | .chain joints items => some (joints, items)
  | _ => Option.none

/-- How many joints may lie on top of each other before the items are laid out as one list. -/
def jointLimit : Nat := 32

/-- Two lists one after the other. -/
def concat (a b : Nat × List Value) : Value :=
  let joints := max a.1 b.1 + 1
  if jointLimit < joints then .list (a.2 ++ b.2) else .chain joints (a.2 ++ b.2)

/-- The sum of two numbers, the concatenation of two texts or of two lists. -/
def add? (a b : Value) : Option Value :=
  match a.sequence?, b.sequence? with
  | some as, some bs => some (concat as bs)
  | _, _ =>
    match a.text?, b.text? with
    | some s, some t => some (.text (s ++ t))
    | _, _ => addNumbers? a b

/-- The number with the other sign.  One more than the largest integer with a sign stays as it
is. -/
def negate? : Value → Option Value
  | .int width n =>
    if width = .unsigned128 ∧ n = Int.pow 2 127 then some (.int width n)
    else if Width.signed128.holds n then ofInt? (-n)
    else Option.none
  | .float x => some (.float x.neg)
  | _ => Option.none

/-- Whether an integer equals a double-precision number.  One that lies between the numbers of
double precision equals none, except the largest of its width, which equals the number next to
it. -/
def equalsDouble (integer : Width × Int) (x : Double) : Bool :=
  let nearest := Double.ofInt integer.2
  nearest.toInt?.any (fun n => integer.1.clamp n == integer.2) && nearest.equal x

/-- Whether two values are the same number. -/
def sameNumber (a b : Value) : Bool :=
  match a, b with
  | .float x, .float y => x.equal y
  | .float x, _ => b.integer?.any fun n => equalsDouble n x
  | _, .float y => a.integer?.any fun n => equalsDouble n y
  | _, _ => a.integer?.any fun m => b.integer?.any fun n => m.2 == n.2

end Value

end ApiStubs.Template
