import ApiStubs.Failure
import ApiStubs.Schema.Basic

/-!
# What a run is about

A run serves at most one service.  The names of its files start from the service, or else from the
application.
-/

namespace ApiStubs

/-- The base name of files when neither a service nor an application gives one. -/
def defaultBaseName : String := "data"

namespace Request

/-- The service of the run, if there is one. -/
def service (request : Request) : Except Failure (Option Service) :=
  match request.services with
  | [] => .ok none
  | [service] => .ok (some service)
  | many => .error (.tooManyServices many.length)

/-- What file names start with, once the service is known. -/
def baseNameOf (request : Request) (service : Option Service) : String :=
  match service with
  | some s => s.name
  | none => if request.applicationName ≠ "" then request.applicationName else defaultBaseName

/-- What file names start with. -/
def baseName (request : Request) : Except Failure String :=
  match request.service with
  | .error e => .error e
  | .ok service => .ok (request.baseNameOf service)

end Request

end ApiStubs
