import ApiStubs.Data.Entries
import ApiStubs.Toml.Statement

/-!
# The tables of a settings document

The statements of a document build one table of tables.  A table is defined once: by a header, by
the keys that run through it, or in braces; a table that so far was only passed through on the way
to another can still be defined by a header.

Statements are taken in order, and the first fault counts.  A header is checked when it opens its
table, but that the element of a list of tables has its place is checked only when the element is
complete.  Numbers out of range are a fault of a document that has no other.
-/

namespace ApiStubs.Toml

/-- How a table came to be. -/
inductive Origin where
  /-- by a header of its own -/
  | header
  /-- on the way to the table of a header -/
  | passed
  /-- by keys that run through it -/
  | dotted
  /-- in braces -/
  | braces
  deriving DecidableEq, Repr, Inhabited

/-- What a key stands for. -/
inductive Item where
  | value (v : Value)
  | list (items : List Item)
  | table (origin : Origin) (entries : List (String × Item))
  /-- a list of tables, each opened by a header -/
  | tables (elements : List (List (String × Item)))
  deriving Repr, Inhabited

/-- Entries of a table. -/
abbrev Entries : Type := List (String × Item)

/-- Change the last element of a list. -/
def changeLast {α : Type} (f : α → Except Fault α) : List α → Except Fault (List α)
  | [] => .error .malformed
  | [a] =>
    match f a with
    | .error e => .error e
    | .ok b => .ok [b]
  | a :: rest =>
    match changeLast f rest with
    | .error e => .error e
    | .ok changed => .ok (a :: changed)

/-- Give a value to a path of keys; the tables that it runs through are made on the way.  Of a list
of tables the way takes the last one.  A table with a header of its own is not extended from
outside, and the last table on the way must not have been made for a header. -/
def assign (value : Item) : List String → Entries → Except Fault Entries
  | [], _ => .error .malformed
  | [key], entries =>
    match findEntry key entries with
    | none => .ok (putEntry key value entries)
    | some _ => .error (.redefined key)
  | key :: next :: path, entries =>
    match findEntry key entries with
    | none =>
      match assign value (next :: path) [] with
      | .error e => .error e
      | .ok inner => .ok (putEntry key (.table .dotted inner) entries)
    | some (.table origin inner) =>
      if origin = .dotted || (origin = .passed && !path.isEmpty) then
        match assign value (next :: path) inner with
        | .error e => .error e
        | .ok changed => .ok (putEntry key (.table origin changed) entries)
      else .error (.redefined key)
    | some (.tables elements) =>
      if path.isEmpty then .error (.redefined key)
      else
        match changeLast (assign value (next :: path)) elements with
        | .error e => .error e
        | .ok changed => .ok (putEntry key (.tables changed) entries)
    | some _ => .error (.redefined key)

/-- Change the entries of the table at the path of a header. -/
def inside (change : Entries → Except Fault Entries) : List String → Entries → Except Fault Entries
  | [], entries => change entries
  | key :: path, entries =>
    match findEntry key entries with
    | none =>
      match inside change path [] with
      | .error e => .error e
      | .ok inner => .ok (putEntry key (.table .passed inner) entries)
    | some (.table origin inner) =>
      if origin = .braces then .error (.redefined key)
      else
        match inside change path inner with
        | .error e => .error e
        | .ok changed => .ok (putEntry key (.table origin changed) entries)
    | some (.tables elements) =>
      match changeLast (inside change path) elements with
      | .error e => .error e
      | .ok changed => .ok (putEntry key (.tables changed) entries)
    | some _ => .error (.redefined key)

/-- Add an element to the list of tables under a key. -/
def addElement (key : String) (element entries : Entries) : Except Fault Entries :=
  match findEntry key entries with
  | none => .ok (putEntry key (.tables [element]) entries)
  | some (.tables elements) => .ok (putEntry key (.tables (elements ++ [element])) entries)
  | some _ => .error (.redefined key)

/-- The entries that the table of a header has already, if a header may define it. -/
def openedEntries : List String → Entries → Except Fault Entries
  | [], _ => .error .malformed
  | [key], entries =>
    match findEntry key entries with
    | none => .ok []
    | some (.table .passed inner) => .ok inner
    | some _ => .error (.redefined key)
  | key :: next :: path, entries =>
    match findEntry key entries with
    | none => .ok []
    | some (.table origin inner) =>
      if origin = .braces then .error (.redefined key) else openedEntries (next :: path) inner
    | some (.tables elements) => openedEntries (next :: path) (elements.getLast?.getD [])
    | some _ => .error (.redefined key)

/-- How many names a key may have. -/
def nameLimit : Nat := 80

/-- The names of a key, if all of them are names. -/
def properNames : Key → Option (List String)
  | [] => some []
  | .proper text :: rest => (properNames rest).map (text :: ·)
  | _ :: _ => none

/-- The path that a key stands for; it has no more names than allowed. -/
def pathOf (key : Key) : Except Fault (List String) :=
  match properNames key with
  | none => .error .malformed
  | some path => if nameLimit < path.length then .error .keyTooLong else .ok path

mutual

/-- The item of a value as written. -/
def itemOf : Value → Except Fault Item
  | .text s => .ok (.value (.text s))
  | .atom a => .ok (.value (.atom a))
  | .unknown => .error .malformed
  | .list items =>
    match itemsOf items with
    | .error e => .error e
    | .ok all => .ok (.list all)
  | .braces entries =>
    match entriesOf entries [] with
    | .error e => .error e
    | .ok inner => .ok (.table .braces inner)

/-- The items of values. -/
def itemsOf : List Value → Except Fault (List Item)
  | [] => .ok []
  | v :: rest =>
    match itemOf v with
    | .error e => .error e
    | .ok item =>
      match itemsOf rest with
      | .error e => .error e
      | .ok items => .ok (item :: items)

/-- The entries of a table in braces, after those already there. -/
def entriesOf : List (Key × Value) → Entries → Except Fault Entries
  | [], entries => .ok entries
  | (key, v) :: rest, entries =>
    match pathOf key with
    | .error e => .error e
    | .ok path =>
      match itemOf v with
      | .error e => .error e
      | .ok item =>
        match assign item path entries with
        | .error e => .error e
        | .ok next => entriesOf rest next

end

/-! ## Documents -/

/-- The header of a table. -/
structure Header where
  path : List String
  /-- whether it opens an element of a list of tables -/
  element : Bool
  deriving DecidableEq, Repr, Inhabited

/-- The tables that are complete, and the one that is open. -/
structure Build where
  root : Entries
  /-- the header of the open table, none for the outermost one -/
  header : Option Header
  entries : Entries
  deriving Repr, Inhabited

/-- The build before the first statement. -/
def Build.empty : Build := ⟨[], none, []⟩

/-- All tables, with the open one put in its place. -/
def Build.closed (build : Build) : Except Fault Entries :=
  match build.header with
  | none => .ok build.entries
  | some header =>
    let key := header.path.getLast?.getD ""
    inside
      (fun entries =>
        if header.element then addElement key build.entries entries
        else .ok (putEntry key (.table .header build.entries) entries))
      header.path.dropLast build.root

/-- Close the open table and open the one of a header. -/
def Build.opened (build : Build) (element : Bool) (key : Key) : Except Fault Build :=
  match build.closed with
  | .error e => .error e
  | .ok root =>
    match pathOf key with
    | .error e => .error e
    | .ok path =>
      if element then .ok ⟨root, some ⟨path, true⟩, []⟩
      else
        match openedEntries path root with
        | .error e => .error e
        | .ok entries => .ok ⟨root, some ⟨path, false⟩, entries⟩

/-- The effect of a statement. -/
def runStatement (build : Build) : Statement → Except Fault Build
  | .table key => build.opened false key
  | .element key => build.opened true key
  | .assign key v =>
    match pathOf key with
    | .error e => .error e
    | .ok path =>
      match itemOf v with
      | .error e => .error e
      | .ok item =>
        match assign item path build.entries with
        | .error e => .error e
        | .ok entries => .ok { build with entries := entries }

/-- The effect of statements one after the other. -/
def runStatements (build : Build) : List Statement → Except Fault Build
  | [] => .ok build
  | statement :: rest =>
    match runStatement build statement with
    | .error e => .error e
    | .ok next => runStatements next rest

/-! ## Numbers in range -/

mutual

/-- Whether all numbers of an item are in range. -/
def Item.inRange : Item → Bool
  | .value (.atom .beyond) => false
  | .value _ => true
  | .list items => itemsInRange items
  | .table _ entries => entriesInRange entries
  | .tables elements => elementsInRange elements

/-- Whether all numbers of items are in range. -/
def itemsInRange : List Item → Bool
  | [] => true
  | item :: rest => item.inRange && itemsInRange rest

/-- Whether all numbers of entries are in range. -/
def entriesInRange : List (String × Item) → Bool
  | [] => true
  | (_, item) :: rest => item.inRange && entriesInRange rest

/-- Whether all numbers of the elements of a list of tables are in range. -/
def elementsInRange : List (List (String × Item)) → Bool
  | [] => true
  | entries :: rest => entriesInRange entries && elementsInRange rest

end

/-- The entries of a document. -/
def entriesOfDocument (document : String) : Except Fault Entries :=
  match statements document with
  | .error e => .error e
  | .ok all =>
    match runStatements .empty all with
    | .error e => .error e
    | .ok build =>
      match build.closed with
      | .error e => .error e
      | .ok entries => if entriesInRange entries then .ok entries else .error .malformed

end ApiStubs.Toml
