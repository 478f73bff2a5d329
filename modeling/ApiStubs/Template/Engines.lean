import ApiStubs.Data.Dialogue
import ApiStubs.Template.Engine

/-!
# Engines side by side

Several engines of one library in use at once, each for its own language.  A template that has been
compiled is asked for by its handle, and any engine can be given any handle.
-/

namespace ApiStubs.Template

/-- Engines in use, each under an index. -/
abbrev Engines (library : Library) (ι : Type) : Type := ι → Engine library

namespace Engines

variable {library : Library} {ι : Type}

/-- Engines without templates, each for its language. -/
def start (languages : ι → Language) : Engines library ι := fun i => Engine.empty (languages i)

/-- What is asked of engines. -/
inductive Step (library : Library) (ι : Type) where
  | compile (engine : ι) (name source : String)
  | render (engine : ι) (handle : Handle) (context : library.Context)

/-- What engines answer. -/
inductive Answer where
  /-- the template is compiled -/
  | compiled (handle : Handle)
  | text (content : String)
  | failed (cause : Failure)
  deriving DecidableEq, Repr, Inhabited

/-- The answer to a request for a compilation. -/
def Answer.ofCompilation : Except Failure Handle → Answer
  | .error cause => .failed cause
  | .ok handle => .compiled handle

/-- The answer to a request for a text. -/
def Answer.ofRendering : Except Failure String → Answer
  | .error cause => .failed cause
  | .ok content => .text content

variable [DecidableEq ι]

/-- The engines with another one at an index. -/
def replace (engines : Engines library ι) (index : ι) (engine : Engine library) :
    Engines library ι :=
  fun other => if other = index then engine else engines other

/-- The engines after a step, and their answer. -/
def step (engines : Engines library ι) : Step library ι → Engines library ι × Answer
  | .compile index name source =>
    let (result, after) := (engines index).compile name source
    (engines.replace index after, .ofCompilation result)
  | .render index handle context => (engines, .ofRendering ((engines index).render handle context))

/-- The engines after steps, and their answers in order. -/
def run (engines : Engines library ι) (steps : List (Step library ι)) :
    Engines library ι × List Answer :=
  dialogue step engines steps

end Engines

end ApiStubs.Template
