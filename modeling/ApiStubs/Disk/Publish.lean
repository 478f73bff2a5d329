import ApiStubs.Disk.Host

/-!
# Writing files below a directory

Files are written one after the other, each after the directories it lies in have been made.  What
was written before a failure stays.
-/

namespace ApiStubs.Disk

variable {m : Type → Type} [Monad m] [Host m]

/-- Whether a directory was made, or was there already. -/
def acceptDirectory (path : String) : Except Fault Unit → m (Except Fault Unit)
  | .ok _ => pure (.ok ())
  | .error .occupied => do
    if ← Host.isDirectory path then pure (.ok ()) else pure (.error .occupied)
  | .error e => pure (.error e)

/-- Make a directory and those it lies in, given from the inside out. -/
def makeDirectories : List String → m (Except Fault Unit)
  | [] => pure (.ok ())
  | path :: outer => do
    match ← Host.makeDirectory path with
    | .error .missing =>
      match ← makeDirectories outer with
      | .error e => pure (.error e)
      | .ok _ => acceptDirectory path (← Host.makeDirectory path)
    | outcome => acceptDirectory path outcome

/-- Why files could not be written. -/
inductive PublishFault where
  /-- a directory that could not be made -/
  | create (path : String) (cause : Fault)
  /-- a file that could not be written -/
  | write (path : String) (cause : Fault)
  deriving DecidableEq, Repr, Inhabited

/-- The text of the diagnostic. -/
def PublishFault.message : PublishFault → String
  | .create path cause => "Failed to create " ++ path ++ ": " ++ cause.message
  | .write path cause => "Failed to write " ++ path ++ ": " ++ cause.message

/-- Make the directories that a path lies in. -/
def makeParents (path : String) : m (Except PublishFault Unit) :=
  match Path.parent? path with
  | none => pure (.ok ())
  | some parent => do
    match ← makeDirectories (Path.ancestors parent) with
    | .error e => pure (.error (.create parent e))
    | .ok _ => pure (.ok ())

/-- Write files below a directory. -/
def publish (root : String) : List (String × String) → m (Except PublishFault Unit)
  | [] => pure (.ok ())
  | (name, content) :: rest => do
    let path := Path.join root name
    match ← makeParents path with
    | .error e => pure (.error e)
    | .ok _ =>
      match ← Host.write path (Utf8.encode content) with
      | .error e => pure (.error (.write path e))
      | .ok _ => publish root rest

end ApiStubs.Disk
