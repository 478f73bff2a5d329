import ApiStubs.Data.Entries
import ApiStubs.Disk.Fault
import ApiStubs.Disk.Path
import ApiStubs.Text.Utf8

/-!
# A disk

Directories and files at locations, and a working directory that relative paths start from.  A
location lists the names from the root to an entry, so looking something up needs no tree walk; a
path is resolved to a location by walking its pieces, each of which has to start in a directory.
-/

namespace ApiStubs

/-- The names from the root to an entry. -/
abbrev Location : Type := List String

/-- What can be at a location. -/
inductive Entry where
  | directory
  | file (content : Bytes)
  deriving DecidableEq, Repr, Inhabited

/-- The entries below the root, and the working directory. -/
structure Disk where
  entries : List (Location × Entry)
  home : Location
  deriving DecidableEq, Repr, Inhabited

namespace Disk

/-- The entry at a location; the root is always a directory. -/
def find? (disk : Disk) (location : Location) : Option Entry :=
  if location = [] then some .directory else findEntry location disk.entries

/-- The disk with an entry at a location. -/
def put (disk : Disk) (location : Location) (entry : Entry) : Disk :=
  { disk with entries := putEntry location entry disk.entries }

/-- Putting an entry changes what is at its location and nothing else. -/
theorem find?_put (disk : Disk) {location : Location} (entry : Entry) (h : location ≠ [])
    (other : Location) :
    (disk.put location entry).find? other =
      if location = other then some entry else disk.find? other := by
  simp only [find?, put, findEntry_putEntry]
  by_cases ho : location = other
  · subst ho
    simp [h]
  · simp [ho]

/-- The longest name that a directory can hold, in octets. -/
def nameLimit : Nat := 255

/-- The longest path that can be resolved, in octets. -/
def pathLimit : Nat := 4095

/-- Follow pieces of a path, each of which has to start in a directory. -/
def walk (disk : Disk) : Location → List String → Except Fault Location
  | location, [] => .ok location
  | location, piece :: rest =>
    match disk.find? location with
    | none => .error .missing
    | some (.file _) => .error .notDirectory
    | some .directory =>
      if Path.isSilent piece then disk.walk location rest
      else if piece = ".." then disk.walk location.dropLast rest
      else if nameLimit < piece.utf8ByteSize then .error .nameTooLong
      else if (disk.find? (location ++ [piece])).isSome then disk.walk (location ++ [piece]) rest
      else .error .missing

/-- Where a path starts. -/
def start (disk : Disk) (path : String) : Location :=
  if Path.isAbsolute path then [] else disk.home

/-- The pieces of a path that can be resolved at all. -/
def pieces (path : String) : Except Fault (List String) :=
  if path.toList.contains (Char.ofNat 0) then .error .nullInPath
  else if path = "" then .error .missing
  else if pathLimit < path.utf8ByteSize then .error .nameTooLong
  else .ok (Text.segments '/' path)

/-- The location of what is at a path. -/
def locate (disk : Disk) (path : String) : Except Fault Location :=
  match pieces path with
  | .error e => .error e
  | .ok ps => disk.walk (disk.start path) ps

/-- The entry at a path. -/
def look (disk : Disk) (path : String) : Except Fault Entry :=
  match disk.locate path with
  | .error e => .error e
  | .ok location =>
    match disk.find? location with
    | none => .error .missing
    | some entry => .ok entry

/-- The content of the file at a path. -/
def read (disk : Disk) (path : String) : Except Fault Bytes :=
  match disk.look path with
  | .error e => .error e
  | .ok .directory => .error .isDirectory
  | .ok (.file content) => .ok content

/-- Whether a file is at a path. -/
def isFile (disk : Disk) (path : String) : Bool :=
  match disk.look path with
  | .ok (.file _) => true
  | _ => false

/-- Whether a directory is at a path. -/
def isDirectory (disk : Disk) (path : String) : Bool :=
  match disk.look path with
  | .ok .directory => true
  | _ => false

/-- Where something can be made: in a directory, under a name. -/
structure Spot where
  directory : Location
  /-- absent when the path ends in dots or in the root -/
  name : Option String
  /-- whether a slash follows the name -/
  slash : Bool
  deriving DecidableEq, Repr

/-- The spot that a path names. -/
def spot (disk : Disk) (path : String) : Except Fault Spot :=
  match pieces path with
  | .error e => .error e
  | .ok ps =>
    match ps.reverse.dropWhile (· = "") with
    | [] => .ok ⟨[], none, true⟩
    | last :: before =>
      match disk.walk (disk.start path) before.reverse with
      | .error e => .error e
      | .ok directory =>
        match disk.find? directory with
        | none => .error .missing
        | some (.file _) => .error .notDirectory
        | some .directory =>
          .ok ⟨directory, if last = "." || last = ".." then none else some last,
            ps.getLast? == some ""⟩

/-- Make a file with a content, or replace the content of the file that is there. -/
def write (disk : Disk) (path : String) (content : Bytes) : Except Fault Disk :=
  match disk.spot path with
  | .error e => .error e
  | .ok ⟨_, none, _⟩ => .error .isDirectory
  | .ok ⟨directory, some name, slash⟩ =>
    if slash then .error .isDirectory
    else if nameLimit < name.utf8ByteSize then .error .nameTooLong
    else
      match disk.find? (directory ++ [name]) with
      | some .directory => .error .isDirectory
      | _ => .ok (disk.put (directory ++ [name]) (.file content))

/-- Make a directory. -/
def makeDirectory (disk : Disk) (path : String) : Except Fault Disk :=
  match disk.spot path with
  | .error e => .error e
  | .ok ⟨_, none, _⟩ => .error .occupied
  | .ok ⟨directory, some name, _⟩ =>
    if nameLimit < name.utf8ByteSize then .error .nameTooLong
    else
      match disk.find? (directory ++ [name]) with
      | some _ => .error .occupied
      | none => .ok (disk.put (directory ++ [name]) .directory)

/-- The locations that names lead through, one after the other. -/
def along (location : Location) : List String → List Location
  | [] => []
  | name :: rest => (location ++ [name]) :: along (location ++ [name]) rest

/-- The disk with nothing but a working directory and what it lies in. -/
def blank (home : Location) : Disk where
  entries := (along [] home).map fun location => (location, .directory)
  home := home

/-- The disk with an entry below the working directory and directories above it. -/
def place (disk : Disk) (path : String) (entry : Entry) : Disk :=
  let names := (Text.segments '/' path).filter fun piece => !Path.isSilent piece
  let above :=
    (along disk.home names.dropLast).foldl (fun d location => d.put location .directory) disk
  above.put (disk.home ++ names) entry

/-- The disk without the file at a path below the working directory. -/
def remove (disk : Disk) (path : String) : Disk :=
  let names := (Text.segments '/' path).filter fun piece => !Path.isSilent piece
  { disk with entries := disk.entries.filter fun found => found.1 ≠ disk.home ++ names }

/-- The files below the working directory with their paths relative to it. -/
def files (disk : Disk) : List (String × Bytes) :=
  disk.entries.filterMap fun found =>
    match Text.afterLead? disk.home found.1, found.2 with
    | some (name :: names), .file content => some (Text.joinWith "/" (name :: names), content)
    | _, _ => none

end Disk

end ApiStubs
