import ApiStubs.Disk.Basic

/-!
# The machine a run works on

A run reads and writes files and reads its standard input.  `Host` names these operations, so that
the same run works on a real machine and on a `Machine`, which is a value.
-/

namespace ApiStubs

/-- The file operations that a run needs. -/
class Host (m : Type → Type) where
  /-- the content of the file at a path -/
  read : String → m (Except Disk.Fault Bytes)
  /-- make or replace the file at a path -/
  write : String → Bytes → m (Except Disk.Fault Unit)
  /-- make a directory in a directory that is there -/
  makeDirectory : String → m (Except Disk.Fault Unit)
  /-- whether a directory is at a path -/
  isDirectory : String → m Bool
  /-- all of standard input -/
  readInput : m (Except Disk.Fault Bytes)

/-- A disk, and what is left to read from standard input or why that cannot be read. -/
structure Machine where
  disk : Disk
  input : Except Disk.Fault Bytes
  deriving Repr, Inhabited

namespace Machine

/-- Put the outcome of a change of the disk in force; a failed one leaves the disk as it was. -/
def settle (machine : Machine) (outcome : Except Disk.Fault Disk) :
    Except Disk.Fault Unit × Machine :=
  match outcome with
  | .error e => (.error e, machine)
  | .ok disk => (.ok (), { machine with disk := disk })

/-- The machine once standard input has been read to its end. -/
def drained (machine : Machine) : Machine :=
  { machine with input := machine.input.map fun _ => [] }

end Machine

instance : Host (StateM Machine) where
  read := fun path machine => (machine.disk.read path, machine)
  write := fun path content machine => machine.settle (machine.disk.write path content)
  makeDirectory := fun path machine => machine.settle (machine.disk.makeDirectory path)
  isDirectory := fun path machine => (machine.disk.isDirectory path, machine)
  readInput := fun machine => (machine.input, machine.drained)

end ApiStubs
