import ApiStubs.Data.SortedMap
import ApiStubs.Failure

/-!
# Generated files

The files of one run: texts under names, listed in the order of their names.  A name is given out
once.
-/

namespace ApiStubs

/-- Texts under file names. -/
structure OutputFiles where
  files : SortedMap String
  deriving DecidableEq, Repr, Inhabited

namespace OutputFiles

/-- No files. -/
def empty : OutputFiles := ⟨SortedMap.empty⟩

/-- The files with one more, whose name must be new. -/
def insert (output : OutputFiles) (name content : String) : Except Failure OutputFiles :=
  if output.files.contains name then .error (.duplicateOutput name)
  else .ok ⟨output.files.insert name content⟩

/-- The content of a file. -/
def get? (output : OutputFiles) (name : String) : Option String := output.files.get? name

/-- Whether there is a file with a name. -/
def contains (output : OutputFiles) (name : String) : Bool := output.files.contains name

/-- The number of files. -/
def size (output : OutputFiles) : Nat := output.files.size

/-- Whether there are no files. -/
def isEmpty (output : OutputFiles) : Bool := output.files.isEmpty

/-- The file names in increasing order. -/
def names (output : OutputFiles) : List String := output.files.keys

/-- The files in the order of their names. -/
def toList (output : OutputFiles) : List (String × String) := output.files.toList

end OutputFiles

end ApiStubs
