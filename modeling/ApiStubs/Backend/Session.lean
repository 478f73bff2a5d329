import ApiStubs.Asset.Store
import ApiStubs.Backend.Basic
import ApiStubs.Data.Dialogue
import ApiStubs.OutputFiles
import ApiStubs.Template.Engine

/-!
# Using a backend

A session is one backend with the templates it has loaded.  Loading takes all templates of the
backend or none: when one cannot be had, the session keeps what it had before.
-/

namespace ApiStubs

open Template

/-- The templates under some keys of a store, compiled one after the other. -/
def loadTemplates (store : Asset.Store) (engine : Engine jinja) :
    List String → Except Failure (Engine jinja)
  | [] => .ok engine
  | key :: rest =>
    match store.get key with
    | .error e => .error e.toFailure
    | .ok source =>
      match engine.compile key source with
      | (.error e, _) => .error e
      | (.ok _, next) => loadTemplates store next rest

/-- The sheets rendered one after the other, each into a file of its own. -/
def renderSheets (engine : Engine jinja) (files : OutputFiles) :
    List Sheet → Except Failure OutputFiles
  | [] => .ok files
  | sheet :: rest =>
    match engine.render ⟨sheet.template⟩ sheet.context with
    | .error e => .error e
    | .ok text =>
      match files.insert sheet.file text with
      | .error e => .error e
      | .ok next => renderSheets engine next rest

/-- A backend and its templates, absent until they are loaded. -/
structure Session where
  backend : Backend
  engine : Option (Engine jinja)
  deriving Inhabited

namespace Session

/-- A backend without templates. -/
def start (backend : Backend) : Session := ⟨backend, none⟩

/-- The session with the templates of a store. -/
def load (session : Session) (store : Asset.Store) : Except Failure Session :=
  match loadTemplates store (Engine.empty session.backend.language) session.backend.templates with
  | .error e => .error e
  | .ok engine => .ok { session with engine := some engine }

/-- The files for a description. -/
def generate (session : Session) (request : Request) : Except Failure OutputFiles :=
  match session.engine with
  | none => .error (.notReady session.backend.name)
  | some engine =>
    match request.service with
    | .error e => .error e
    | .ok service => renderSheets engine OutputFiles.empty (session.backend.plan request service)

/-- What is asked of a session. -/
inductive Step where
  | load (store : Asset.Store)
  | generate (request : Request)

/-- What a session answers. -/
inductive Answer where
  /-- the templates are loaded -/
  | ready
  | files (files : OutputFiles)
  | failed (cause : Failure)
  deriving DecidableEq, Repr, Inhabited

/-- The session after a step, and its answer. -/
def step (session : Session) : Step → Session × Answer
  | .load store =>
    match session.load store with
    | .error e => (session, .failed e)
    | .ok next => (next, .ready)
  | .generate request =>
    match session.generate request with
    | .error e => (session, .failed e)
    | .ok files => (session, .files files)

/-- The session after steps, and their answers in order. -/
def run (session : Session) (steps : List Step) : Session × List Answer :=
  dialogue step session steps

end Session

end ApiStubs
