import ApiStubs.Backend.Registry
import ApiStubs.Backend.Session

/-!
# Generating files

The whole way from a description to files: the number of services is checked first, then the backend
is looked up, its templates are loaded, and its files are rendered.
-/

namespace ApiStubs

/-- The backends to choose from, and where their templates come from. -/
structure Generator where
  registry : Registry
  store : Asset.Store

namespace Generator

/-- The standard backends with templates of a store. -/
def standard (store : Asset.Store) : Generator := ⟨Registry.standard, store⟩

/-- The files that the backend with a name makes of a description. -/
def generate (generator : Generator) (backend : String) (request : Request) :
    Except Failure OutputFiles :=
  if 1 < request.services.length then .error (.tooManyServices request.services.length)
  else
    match generator.registry.find backend with
    | .error e => .error e
    | .ok found =>
      match (Session.start found).load generator.store with
      | .error e => .error e
      | .ok session => session.generate request

end Generator

end ApiStubs
