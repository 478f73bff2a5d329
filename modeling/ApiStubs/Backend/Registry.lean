import ApiStubs.Backend.Basic
import ApiStubs.Text.Quoted

/-!
# Backends by name

Which backend a name stands for.  Several names may stand for one backend.
-/

namespace ApiStubs

/-- Backends under names. -/
structure Registry where
  backends : SortedMap Backend
  deriving DecidableEq, Repr, Inhabited

namespace Registry

/-- No backends. -/
def empty : Registry := ⟨SortedMap.empty⟩

/-- The registry with a name for a backend, in place of what the name stood for. -/
def register (registry : Registry) (name : String) (backend : Backend) : Registry :=
  ⟨registry.backends.insert name backend⟩

/-- Every backend under its name, and `ts` for the first of the two TypeScript clients. -/
def standard : Registry :=
  ⟨SortedMap.ofList [
    ("ts", .axios), ("ts-axios", .axios), ("ts-fetch", .fetch), ("echo", .echo),
    ("spring", .spring), ("php", .php)]⟩

/-- Whether a name stands for a backend. -/
def contains (registry : Registry) (name : String) : Bool := registry.backends.contains name

/-- The names in increasing order. -/
def names (registry : Registry) : List String := registry.backends.keys

/-- The number of names. -/
def size (registry : Registry) : Nat := registry.backends.size

/-- The backend that a name stands for. -/
def find (registry : Registry) (name : String) : Except Failure Backend :=
  match registry.backends.get? name with
  | none => .error (.unknownBackend name)
  | some backend => .ok backend

/-- The registry as a diagnostic shows it. -/
def describe (registry : Registry) : String :=
  "BackendRegistry \x7b backends: [" ++ Text.joinWith ", " (registry.names.map Text.quoted) ++
    "] \x7d"

end Registry

end ApiStubs
