import ApiStubs.Asset.Builtin.Go
import ApiStubs.Asset.Builtin.Java
import ApiStubs.Asset.Builtin.Php
import ApiStubs.Asset.Builtin.Typescript
import ApiStubs.Text.Split

/-!
# The built-in templates

Ten templates under their keys.
-/

namespace ApiStubs.Asset

/-- Lines, each with its end. -/
def linesText (lines : List String) : String := Text.concat (lines.map (· ++ "\n"))

/-- The characters of lines, each with its end. -/
def linesChars (lines : List String) : List Char := lines.flatMap fun line => line.toList ++ ['\n']

theorem toList_linesText (lines : List String) : (linesText lines).toList = linesChars lines := by
  induction lines with
  | nil => rfl
  | cons line lines ih =>
    have hstep : linesText (line :: lines) = line ++ "\n" ++ linesText lines := rfl
    rw [hstep, String.toList_append, String.toList_append, ih]
    simp [linesChars]

namespace Builtin

/-- The lines of every built-in template under its key, in the order of the keys. -/
def all : List (String × List String) := [
  ("echo/objs.go.j2", Go.types),
  ("echo/service.go.j2", Go.server),
  ("php/client.php.j2", Php.client),
  ("spring/enum.java.j2", Java.enumeration),
  ("spring/service.java.j2", Java.controller),
  ("spring/struct.java.j2", Java.message),
  ("ts/helper.ts.j2", Typescript.helper),
  ("ts/objs.ts.j2", Typescript.types),
  ("ts/service_axios.ts.j2", Typescript.axiosClient),
  ("ts/service_fetch.ts.j2", Typescript.fetchClient)
]

/-- The keys of the built-in templates. -/
def keys : List String := all.map (·.1)

/-- The text of a built-in template. -/
def text? (key : String) : Option String :=
  (all.find? (fun entry => entry.1 == key)).map fun entry => linesText entry.2

end Builtin

end ApiStubs.Asset
