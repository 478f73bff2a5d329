import ApiStubs.CommandLine.Run

/-!
# The program
-/

namespace ApiStubs

/-- The fault behind a code of the operating system, or else one given by its text.  Some calls give
the code negated. -/
def faultOfCode (given : UInt32) (text : String) : Disk.Fault :=
  let code := if given < 0x80000000 then given else 0 - given
  if code = 2 then .missing
  else if code = 17 then .occupied
  else if code = 20 then .notDirectory
  else if code = 21 then .isDirectory
  else if code = 36 then .nameTooLong
  else .note text

/-- The fault behind an error of the operating system. -/
def faultOf (e : IO.Error) : Disk.Fault :=
  match e with
  | .noFileOrDirectory _ _ _ => .missing
  | .alreadyExists _ code _ => faultOfCode code (toString e)
  | .inappropriateType _ code _ => faultOfCode code (toString e)
  | .invalidArgument _ code _ => faultOfCode code (toString e)
  | .otherError code _ => faultOfCode code (toString e)
  | _ => .note (toString e)

/-- An action, with an error as a value. -/
def attempted {α : Type} (action : IO α) : IO (Except Disk.Fault α) := do
  try
    return .ok (← action)
  catch e =>
    return .error (faultOf e)

instance : Host IO where
  read := fun path => attempted do
    return (← IO.FS.readBinFile path).toList
  write := fun path content => attempted (IO.FS.writeBinFile path (ByteArray.mk content.toArray))
  makeDirectory := fun path => attempted (IO.FS.createDir path)
  isDirectory := fun path => do
    return ← ((← IO.currentDir) / path).isDir
  readInput := attempted do
    return (← (← IO.getStdin).readBinToEnd).toList

end ApiStubs

/-- Run the command line and report how it ended. -/
def main (arguments : List String) : IO UInt32 := do
  let report ← (ApiStubs.CommandLine.run arguments : IO ApiStubs.CommandLine.Report)
  IO.print report.output
  if report.status = ApiStubs.CommandLine.usageStatus then
    IO.eprintln ApiStubs.CommandLine.usageText
  if let some fault := report.fault then
    IO.eprintln ("error: " ++ fault.message)
  return UInt32.ofNat report.status
