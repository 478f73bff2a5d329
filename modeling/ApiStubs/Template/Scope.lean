import ApiStubs.Template.Callable
import ApiStubs.Template.Constant

/-!
# Names in sight

A template, every round of a loop and every call of a macro has a frame of its own that holds the
names bound in it.  A name is looked up from the innermost frame outwards, but a call of a macro
sees no further than its own frame: beyond that it sees what the macro remembers, then the context.

What macros remember is kept with the frame that defines them, once for all macros of that frame.  A
macro takes along the values that the names it reads have where it is defined, and from then on
every name that is bound in the frame is remembered too.  Frames are never left while something that
they keep is in use, so a macro points to the frame by its place, counted from the outermost frame.

A round of a loop that was bound to a name, by itself or as part of a list or a map, stands for the
round that the loop is in when the name is read.
-/

namespace ApiStubs.Template

/-- Names with their values. -/
abbrev Names : Type := List (String × Value)

/-- What a frame was opened for. -/
inductive Origin where
  /-- a template or a loop: the frame outside is in sight -/
  | inner
  /-- a call of a macro, with the frame that keeps what the macro remembers -/
  | call (home : Option Nat)
  deriving DecidableEq, Repr, Inhabited

/-- The names bound by one template, loop or call. -/
structure Frame where
  origin : Origin
  names : Names
  /-- what the macros of this frame remember, once there is something to remember -/
  kept : Option Names
  /-- what `loop` stands for in this frame -/
  round : Option Value
  /-- whether a round of a loop may be part of a value bound here -/
  live : Bool
  deriving Repr, Inhabited

/-- The frames of an evaluation, the innermost first, those of callers included. -/
abbrev Scope : Type := List Frame

/-- Names with one more bound, in place of what it was bound to. -/
def Names.bind (names : Names) (name : String) (v : Value) : Names := (name, v) :: names

namespace Value

mutual

/-- Whether a round of a loop is part of a value. -/
def holdsRound : Value → Bool
  | .round _ _ _ _ _ => true
  | .list items => itemsHoldRound items
  | .chain _ items => itemsHoldRound items
  | .map entries => entriesHoldRound entries
  | .named entries => entriesHoldRound entries
  | _ => false

/-- Whether a round of a loop is part of one of the items. -/
def itemsHoldRound : List Value → Bool
  | [] => false
  | v :: rest => holdsRound v || itemsHoldRound rest

/-- Whether a round of a loop is part of one of the entries. -/
def entriesHoldRound : List (String × Value) → Bool
  | [] => false
  | (_, v) :: rest => holdsRound v || entriesHoldRound rest

end

mutual

/-- A value with every round in it replaced by the present one of the same loop. -/
def refreshed (present : Nat → Option Value) : Value → Value
  | .round home index length previous next =>
    (present home).getD (.round home index length previous next)
  | .list items => .list (refreshedItems present items)
  | .chain joints items => .chain joints (refreshedItems present items)
  | .map entries => .map (refreshedEntries present entries)
  | .named entries => .named (refreshedEntries present entries)
  | v => v

/-- Items with their rounds replaced. -/
def refreshedItems (present : Nat → Option Value) : List Value → List Value
  | [] => []
  | v :: rest => refreshed present v :: refreshedItems present rest

/-- Entries with their rounds replaced. -/
def refreshedEntries (present : Nat → Option Value) : List (String × Value) → List (String × Value)
  | [] => []
  | (key, v) :: rest => (key, refreshed present v) :: refreshedEntries present rest

end

end Value

namespace Frame

/-- A frame that binds nothing. -/
def opened (origin : Origin) : Frame := ⟨origin, [], none, none, false⟩

/-- The frame with a name bound; macros of the frame see it too. -/
def bind (frame : Frame) (name : String) (v : Value) : Frame :=
  { frame with
    names := Names.bind frame.names name v
    kept := frame.kept.map fun kept => Names.bind kept name v
    live := frame.live || v.holdsRound }

/-- The value of a name in the frame itself. -/
def find? (frame : Frame) (name : String) : Option Value :=
  match findEntry name frame.names with
  | some v => some v
  | none => if name = "loop" then frame.round else none

end Frame

namespace Scope

/-- The frame at a place counted from the outermost one. -/
def frameAt? (scope : Scope) (place : Nat) : Option Frame :=
  if place < scope.length then scope[scope.length - 1 - place]? else none

/-- A value as it is read from a frame. -/
def present (scope : Scope) (frame : Frame) (v : Value) : Value :=
  if frame.live then v.refreshed fun home => (scope.frameAt? home).bind (·.round) else v

/-- What the frame at a place remembers of a name. -/
def remembered? (scope : Scope) (name : String) : Option Nat → Option Value
  | none => none
  | some home =>
    match scope.frameAt? home with
    | none => none
    | some frame => (frame.kept.bind (findEntry name)).map (scope.present frame)

/-- The value of a name in the frames in sight, or what the macro that is running remembers. -/
def search? (whole : Scope) (name : String) : List Frame → Option Value
  | [] => none
  | frame :: outer =>
    match frame.find? name with
    | some v => some (whole.present frame v)
    | none =>
      match frame.origin with
      | .inner => search? whole name outer
      | .call home => whole.remembered? name home

/-- The value of a name in a scope. -/
def find? (scope : Scope) (name : String) : Option Value := search? scope name scope

end Scope

/-- What surrounds an evaluation: the target language, the template that is rendered, the templates
held beside it, the context, and how deep it is nested. -/
structure Setting where
  language : Language
  /-- the name of the template that is rendered -/
  template : String
  /-- the names of all templates that are held -/
  held : List String
  context : Names
  depth : Nat
  deriving Repr, Inhabited

/-- The value of a name: of the scope, of the context, or a function. -/
def lookup? (setting : Setting) (scope : Scope) (name : String) : Option Value :=
  match scope.find? name with
  | some v => some v
  | none =>
    match findEntry name setting.context with
    | some v => some v
    | none => (Function.ofName? name).map .function

/-- The frame with a name remembered, unless it is already. -/
def Frame.keep (setting : Setting) (outer : Scope) (frame : Frame) (name : String) : Frame :=
  let kept := frame.kept.getD []
  match findEntry name kept with
  | some _ => { frame with kept := some kept }
  | none =>
    let v := (lookup? setting (frame :: outer) name).getD .undefined
    { frame with kept := some (Names.bind kept name v), live := frame.live || v.holdsRound }

/-- The frame with a macro defined in it. -/
def Frame.define (setting : Setting) (outer : Scope) (frame : Frame) (name : String)
    (parameters : List Parameter) (body : List Stmt) : Frame :=
  let prepared := (captures parameters body).foldl (Frame.keep setting outer) frame
  let home := if prepared.kept.isSome then some outer.length else none
  prepared.bind name (.routine ⟨name, parameters, body, home⟩)

end ApiStubs.Template
