/-!
# Why a file operation fails
-/

namespace ApiStubs.Disk

/-- Why a file operation fails. -/
inductive Fault where
  /-- nothing is at the path -/
  | missing
  /-- something is at the path already -/
  | occupied
  /-- a component of the path that has to be a directory is a file -/
  | notDirectory
  /-- the path leads to a directory -/
  | isDirectory
  /-- the path or one of its components is too long -/
  | nameTooLong
  /-- the path holds the null character -/
  | nullInPath
  /-- the content is no UTF-8 text -/
  | notText
  /-- a cause given by its text -/
  | note (text : String)
  deriving DecidableEq, Repr, Inhabited

/-- The text of the diagnostic. -/
def Fault.message : Fault → String
  | .missing => "No such file or directory (os error 2)"
  | .occupied => "File exists (os error 17)"
  | .notDirectory => "Not a directory (os error 20)"
  | .isDirectory => "Is a directory (os error 21)"
  | .nameTooLong => "File name too long (os error 36)"
  | .nullInPath => "file name contained an unexpected NUL byte"
  | .notText => "stream did not contain valid UTF-8"
  | .note text => text

end ApiStubs.Disk
