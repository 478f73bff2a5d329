/-!
# Revisions

A pass over values that leaves most of them alone says of each whether it was passed on as it was or
replaced by a new one.
-/

namespace ApiStubs

/-- A value passed on as it was, or a new value in its place. -/
inductive Revision (α : Type) where
  | kept (value : α)
  | changed (value : α)
  deriving DecidableEq, Repr, Inhabited

namespace Revision

variable {α : Type}

/-- The value that stands after the pass. -/
def value : Revision α → α
  | .kept a => a
  | .changed a => a

/-- Whether the value was passed on as it was. -/
def isKept : Revision α → Bool
  | .kept _ => true
  | .changed _ => false

end Revision

end ApiStubs
