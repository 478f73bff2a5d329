import ApiStubs.Failure
import ApiStubs.Template.Library

/-!
# Engines

An engine compiles templates for one target language and renders them, over any template library.
What it adds to the library is the helpers' language, the handles that it gives out and the
failures, which name the template.
-/

namespace ApiStubs.Template

/-- What compiling a template hands out: under what name to look, and nothing else. -/
structure Handle where
  name : String
  deriving DecidableEq, Repr, Inhabited

/-- An environment of a library, with the language that its helpers are for. -/
structure Engine (library : Library) where
  language : Language
  environment : library.Environment

namespace Engine

variable {library : Library}

/-- The engine of a language with no templates. -/
def empty (language : Language) : Engine library := ⟨language, library.opened language⟩

instance : Inhabited (Engine library) := ⟨empty default⟩

/-- What comes of adding a source under a name: a handle, or a failure that names the template. -/
def outcome (name : String) : Except SyntaxFault Unit → Except Failure Handle
  | .error cause => .error (.templateRefused name cause)
  | .ok () => .ok ⟨name⟩

/-- Compile a source under a name: what comes of it, and the engine afterwards. -/
def compile (engine : Engine library) (name source : String) :
    Except Failure Handle × Engine library :=
  let (result, after) := library.add engine.environment name source
  (outcome name result, { engine with environment := after })

/-- The template of a handle, rendered against a context. -/
def render (engine : Engine library) (handle : Handle) (context : library.Context) :
    Except Failure String :=
  match library.find engine.environment handle.name with
  | .error e => .error (.renderFailed handle.name e)
  | .ok template =>
    match library.render engine.environment template context with
    | .error e => .error (.renderFailed handle.name e)
    | .ok text => .ok text

/-! ## Engines of the library of this development -/

section Jinja

variable {engine : Engine jinja} {name source : String}

/-- The engine with statements under a name. -/
def hold (engine : Engine jinja) (name : String) (stmts : List Stmt) : Engine jinja :=
  let environment : Environment := engine.environment
  { engine with environment :=
    { environment with templates := environment.templates.insert name stmts } }

theorem compile_of_parse {stmts : List Stmt} (h : parse source.toList = .ok stmts) :
    engine.compile name source = (.ok ⟨name⟩, engine.hold name stmts) := by
  simp only [compile, Environment.add, h, hold, outcome]

theorem compile_of_refused {cause : SyntaxFault} (h : parse source.toList = .error cause) :
    engine.compile name source = (.error (.templateRefused name cause), engine) := by
  simp only [compile, Environment.add, h, outcome]

end Jinja

end Engine

end ApiStubs.Template
