import ApiStubs.Asset.Builtin
import ApiStubs.Disk.Basic
import ApiStubs.Failure

/-!
# Where templates come from

A store yields the text of a template by its key, such as `ts/objs.ts.j2`: the built-in one, or the
file at that path below a directory.  Leading slashes of a key are ignored, and a key that could
leave the directory is never looked up.
-/

namespace ApiStubs.Asset

/-- Why there is no text for a key. -/
inductive Fault where
  | notFound (key : String)
  /-- a packed text that cannot be unpacked -/
  | undecodable (key cause : String)
  /-- a file that cannot be read -/
  | unreadable (key : String) (cause : Disk.Fault)
  deriving DecidableEq, Repr, Inhabited

namespace Fault

/-- The text of the diagnostic. -/
def message : Fault → String
  | .notFound key => "Asset not found: " ++ key
  | .undecodable key cause => "Failed to decode asset " ++ key ++ ": " ++ cause
  | .unreadable key cause => "Failed to read asset " ++ key ++ ": " ++ cause.message

/-- The failure of a run that needed the asset. -/
def toFailure : Fault → Failure
  | .notFound key => .assetNotFound key
  | .undecodable key cause => .assetUnusable key cause
  | .unreadable key cause => .assetUnusable key cause.message

end Fault

/-- What a directory answers for the paths of files below it. -/
structure Folder where
  read : String → Except Disk.Fault Bytes
  isFile : String → Bool

/-- Where templates come from. -/
inductive Store where
  | builtin
  | folder (content : Folder)

/-- The key without leading slashes, unless nothing is left or a component leads upwards. -/
def normalize? (key : String) : Option String :=
  let bare := String.ofList (key.toList.dropWhile (· = '/'))
  if bare = "" || (Text.segments '/' bare).contains ".." then none else some bare

namespace Folder

/-- The files below a directory of a disk. -/
def ofDisk (disk : Disk) (directory : String) : Folder where
  read := fun key => disk.read (Path.join directory key)
  isFile := fun key => disk.isFile (Path.join directory key)

/-- What is known of a directory from the answers for some of its paths. -/
def ofAnswers (answers : List (String × Except Disk.Fault Bytes)) : Folder where
  read := fun key =>
    match answers.find? (fun answer => answer.1 == key) with
    | none => .error .missing
    | some answer => answer.2
  isFile := fun key =>
    match answers.find? (fun answer => answer.1 == key) with
    | some (_, .ok _) => true
    | _ => false

/-- The text of a file. -/
def text (folder : Folder) (key : String) : Except Fault String :=
  match folder.read key with
  | .error .missing => .error (.notFound key)
  | .error cause => .error (.unreadable key cause)
  | .ok content =>
    match Utf8.decode? content with
    | none => .error (.unreadable key .notText)
    | some s => .ok s

end Folder

namespace Store

/-- Whether templates come from a directory. -/
def isFolder : Store → Bool
  | .builtin => false
  | .folder _ => true

/-- The text under a key. -/
def get (store : Store) (key : String) : Except Fault String :=
  match normalize? key with
  | none => .error (.notFound key)
  | some bare =>
    match store with
    | .builtin =>
      match Builtin.text? bare with
      | none => .error (.notFound bare)
      | some s => .ok s
    | .folder content => content.text bare

/-- Whether the store has something under a key. -/
def contains (store : Store) (key : String) : Bool :=
  match normalize? key with
  | none => false
  | some bare =>
    match store with
    | .builtin => (Builtin.text? bare).isSome
    | .folder content => content.isFile bare

/-- The keys that templates are asked for by. -/
def keys (_ : Store) : List String := Builtin.keys

end Store

end ApiStubs.Asset
