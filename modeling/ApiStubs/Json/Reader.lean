import ApiStubs.Data.SortedMap
import ApiStubs.Json.Skip

/-!
# Reading typed values from JSON

One reader per kind of value, each a step from octets to a value and the octets after it.  A record
is described by a `Layout`: its members in order, each with a reader that says how the member
changes the record, and the record in which every member has its default.  A record may be written
as an object, with members in any order and unknown members passed over, or as an array of its
members in order.
-/

namespace ApiStubs.Json

/-- A value of another kind than the place takes.  A scalar is read to its end first, and a fault in
it comes before the mismatch. -/
def mismatch (expected : String) (bytes : Bytes) : Fault :=
  match bytes with
  | [] => .endInValue
  | b :: rest =>
    if b = 0x6E then word (expectWord nullTail rest) .null
    else if b = 0x74 then word (expectWord trueTail rest) (.boolean true)
    else if b = 0x66 then word (expectWord falseTail rest) (.boolean false)
    else if b = 0x2D then number (scanNumber true rest)
    else if isDigit b then number (scanNumber false bytes)
    else if b = 0x22 then
      match scanText rest with
      | .error e => e
      | .ok (s, _) => .invalidType (.text s) expected
    else if b = 0x5B then .invalidType .sequence expected
    else if b = 0x7B then .invalidType .map expected
    else .expectedValue
where
  /-- A fixed word, or the fault in it. -/
  word (result : Except Fault Bytes) (found : Found) : Fault :=
    match result with
    | .error e => e
    | .ok _ => .invalidType found expected
  /-- A number, or the fault in it. -/
  number (result : Except Fault (Number × Bytes)) : Fault :=
    match result with
    | .error e => e
    | .ok (n, _) => .invalidType n.found expected

/-! ## Scalars -/

/-- A string. -/
def readText (expected : String) : Reader String := fun bytes =>
  match skipSpace bytes with
  | [] => .error .endInValue
  | b :: rest => if b = 0x22 then scanText rest else .error (mismatch expected (b :: rest))

/-- The range check of a 32-bit integer. -/
def int32? (n : Number) : Except Fault Int32 :=
  match n with
  | .float x => .error (.invalidType (.float x) "i32")
  | .integer i =>
    if -2147483648 ≤ i ∧ i ≤ 2147483647 then .ok (Int32.ofInt i)
    else .error (.invalidValue (.integer i) "i32")

/-- A 32-bit integer: a literal without fraction and exponent, in range. -/
def readInt32 : Reader Int32 := fun bytes =>
  match skipSpace bytes with
  | [] => .error .endInValue
  | b :: rest =>
    if b = 0x2D then finish (scanNumber true rest)
    else if isDigit b then finish (scanNumber false (b :: rest))
    else .error (mismatch "i32" (b :: rest))
where
  /-- Check the range of a number that has been read. -/
  finish (result : Except Fault (Number × Bytes)) : Except Fault (Int32 × Bytes) :=
    match result with
    | .error e => .error e
    | .ok (n, after) => withRest (int32? n) after

/-- `null`, or a value. -/
def readOptional {α : Type} (inner : Reader α) : Reader (Option α) := fun bytes =>
  match skipSpace bytes with
  | [] => some? (inner [])
  | b :: rest =>
    if b = 0x6E then
      match expectWord nullTail rest with
      | .error e => .error e
      | .ok after => .ok (none, after)
    else some? (inner (b :: rest))
where
  /-- A value that is there. -/
  some? (result : Except Fault (α × Bytes)) : Except Fault (Option α × Bytes) :=
    match result with
    | .error e => .error e
    | .ok (a, after) => .ok (some a, after)

/-! ## Arrays -/

/-- Whether another element follows; the octets start at the element, or after the closing
bracket. -/
def nextElement (first : Bool) (bytes : Bytes) : Except Fault (Bool × Bytes) :=
  match skipSpace bytes with
  | [] => .error .endInList
  | b :: rest =>
    if b = 0x5D then .ok (false, rest)
    else if first then .ok (true, b :: rest)
    else if b = 0x2C then
      match skipSpace rest with
      | [] => .error .endInValue
      | c :: more => if c = 0x5D then .error .trailingComma else .ok (true, c :: more)
    else .error .expectedListEnd

/-- The elements up to the closing bracket.  Every element takes at least one octet, which bounds
their number. -/
def readElements {α : Type} (element : Reader α) :
    Nat → Bool → Bytes → Except Fault (List α × Bytes)
  | 0, _, _ => .error .endInList
  | fuel + 1, first, bytes =>
    match nextElement first bytes with
    | .error e => .error e
    | .ok (false, rest) => .ok ([], rest)
    | .ok (true, rest) =>
      match element rest with
      | .error e => .error e
      | .ok (a, after) =>
        match readElements element fuel false after with
        | .error e => .error e
        | .ok (more, end_) => .ok (a :: more, end_)

/-- An array. -/
def readList {α : Type} (element : Reader α) : Reader (List α) := fun bytes =>
  match skipSpace bytes with
  | [] => .error .endInValue
  | b :: rest =>
    if b = 0x5B then readElements element (rest.length + 1) true rest
    else .error (mismatch "a sequence" (b :: rest))

/-! ## Objects -/

/-- The name of the next member, or none at the closing bracket. -/
def nextKey (first : Bool) (bytes : Bytes) : Except Fault (Option String × Bytes) :=
  match skipSpace bytes with
  | [] => .error .endInObject
  | b :: rest =>
    if b = 0x7D then .ok (none, rest)
    else if first then
      if b = 0x22 then name (scanText rest) else .error .keyNotText
    else if b = 0x2C then
      match skipSpace rest with
      | [] => .error .endInValue
      | c :: more =>
        if c = 0x22 then name (scanText more)
        else if c = 0x7D then .error .trailingComma
        else .error .keyNotText
    else .error .expectedObjectEnd
where
  /-- A member name that has been read. -/
  name (result : Except Fault (String × Bytes)) : Except Fault (Option String × Bytes) :=
    match result with
    | .error e => .error e
    | .ok (s, after) => .ok (some s, after)

/-- The colon after a member name. -/
def readColon (bytes : Bytes) : Except Fault Bytes :=
  match skipSpace bytes with
  | [] => .error .endInObject
  | b :: rest => if b = 0x3A then .ok rest else .error .expectedColon

/-- The members of an object of strings, added to those read before; a repeated name keeps its last
value. -/
def readTexts : Nat → Bool → SortedMap String → Bytes → Except Fault (SortedMap String × Bytes)
  | 0, _, _, _ => .error .endInObject
  | fuel + 1, first, texts, bytes =>
    match nextKey first bytes with
    | .error e => .error e
    | .ok (none, rest) => .ok (texts, rest)
    | .ok (some key, rest) =>
      match readColon rest with
      | .error e => .error e
      | .ok start =>
        match readText "a string" start with
        | .error e => .error e
        | .ok (value, after) => readTexts fuel false (texts.insert key value) after

/-- An object whose members are all strings. -/
def readTextMap : Reader (SortedMap String) := fun bytes =>
  match skipSpace bytes with
  | [] => .error .endInValue
  | b :: rest =>
    if b = 0x7B then readTexts (rest.length + 1) true SortedMap.empty rest
    else .error (mismatch "a map" (b :: rest))

/-! ## Names of a fixed set -/

/-- One of the known names, as the value it stands for. -/
def pick {α : Type} (known : List (String × α)) (name : String) : Except Fault α :=
  match known.find? (fun entry => entry.1 == name) with
  | some entry => .ok entry.2
  | none => .error (.unknownVariant name (known.map (·.1)))

/-- A string that is one of the known names, after its opening quote. -/
def readName {α : Type} (known : List (String × α)) (bytes : Bytes) : Except Fault (α × Bytes) :=
  match scanText bytes with
  | .error e => .error e
  | .ok (name, after) => withRest (pick known name) after

/-- The value `null`. -/
def readUnit (bytes : Bytes) : Except Fault Bytes :=
  match skipSpace bytes with
  | [] => .error .endInValue
  | b :: rest => if b = 0x6E then expectWord nullTail rest else .error (mismatch "unit" (b :: rest))

/-- The only member name of an object, which must be known. -/
def readTag {α : Type} (known : List (String × α)) (bytes : Bytes) : Except Fault (α × Bytes) :=
  match skipSpace bytes with
  | [] => .error .endInObject
  | b :: rest =>
    if b = 0x22 then readName known rest
    else if b = 0x7D then .error .expectedValue
    else .error .keyNotText

/-- The rest of an object with one member whose name is known and whose value is `null`. -/
def readTagged {α : Type} (known : List (String × α)) (bytes : Bytes) : Except Fault (α × Bytes) :=
  match readTag known bytes with
  | .error e => .error e
  | .ok (value, after) =>
    match readColon after with
    | .error e => .error e
    | .ok start =>
      match readUnit start with
      | .error e => .error e
      | .ok tail =>
        match skipSpace tail with
        | [] => .error .endInObject
        | b :: rest => if b = 0x7D then .ok (value, rest) else .error .expectedValue

/-- One of the known names, as a string or as the only member of an object, with the value
`null`. -/
def readVariant {α : Type} (known : List (String × α)) : Reader α := fun bytes =>
  match skipSpace bytes with
  | [] => .error .endInValue
  | b :: rest =>
    if b = 0x7B then readTagged known rest
    else if b = 0x22 then readName known rest
    else .error .expectedValue

/-! ## Records -/

/-- A member of a record: its name, whether it must be there, and how its value changes the
record. -/
structure Slot (α : Type) where
  name : String
  required : Bool
  read : Reader (α → α)

namespace Slot

/-- The member whose value is read by `inner` and put in place by `set`. -/
def of {α β : Type} (name : String) (required : Bool) (inner : Reader β) (set : β → α → α) :
    Slot α :=
  ⟨name, required, fun bytes =>
    match inner bytes with
    | .error e => .error e
    | .ok (b, after) => .ok (set b, after)⟩

end Slot

/-- A record: what diagnostics call it, the record in which every member has its default, and its
members in order. -/
structure Layout (α : Type) where
  title : String
  blank : α
  slots : List (Slot α)

namespace Layout

variable {α : Type}

/-- The member with a name. -/
def slot? (layout : Layout α) (name : String) : Option (Slot α) :=
  layout.slots.find? (fun slot => slot.name == name)

/-- The first member that must be there and has not been given. -/
def missing? (layout : Layout α) (seen : List String) : Option (Slot α) :=
  layout.slots.find? (fun slot => slot.required && !seen.contains slot.name)

/-- The members of an object, applied to the record in the order in which they stand. -/
def readMembers (layout : Layout α) :
    Nat → Bool → α → List String → Bytes → Except Fault (α × Bytes)
  | 0, _, _, _, _ => .error .endInObject
  | fuel + 1, first, record, seen, bytes =>
    match nextKey first bytes with
    | .error e => .error e
    | .ok (none, rest) =>
      match layout.missing? seen with
      | some slot => .error (.missingField slot.name)
      | none => .ok (record, rest)
    | .ok (some name, rest) =>
      match layout.slot? name with
      | none =>
        match readColon rest with
        | .error e => .error e
        | .ok start =>
          match skipValue start with
          | .error e => .error e
          | .ok after => readMembers layout fuel false record seen after
      | some slot =>
        if seen.contains name then .error (.duplicateField name)
        else
          match readColon rest with
          | .error e => .error e
          | .ok start =>
            match slot.read start with
            | .error e => .error e
            | .ok (change, after) =>
              readMembers layout fuel false (change record) (name :: seen) after

/-- The end of an array that has given all members. -/
def closeList (bytes : Bytes) : Except Fault Bytes :=
  match skipSpace bytes with
  | [] => .error .endInList
  | b :: rest =>
    if b = 0x5D then .ok rest
    else if b = 0x2C then
      match skipSpace rest with
      | c :: _ => if c = 0x5D then .error .trailingComma else .error .trailingText
      | [] => .error .trailingText
    else .error .trailingText

/-- How an array that is too short for the record is reported. -/
def lengthText (layout : Layout α) : String :=
  "struct " ++ layout.title ++ " with " ++ Text.decimalNat layout.slots.length ++ " elements"

/-- Whether every member from here on may be left out; the position of the first that may not. -/
def tooShort (index : Nat) : List (Slot α) → Option Nat
  | [] => none
  | slot :: rest => if slot.required then some index else tooShort (index + 1) rest

/-- The members of an array, in the order of the record. -/
def readPositions (layout : Layout α) :
    List (Slot α) → Nat → α → Bytes → Except Fault (α × Bytes)
  | [], _, record, bytes => withRest' record (closeList bytes)
  | slot :: rest, index, record, bytes =>
    match nextElement (index == 0) bytes with
    | .error e => .error e
    | .ok (false, after) =>
      match tooShort index (slot :: rest) with
      | some n => .error (.invalidLength n layout.lengthText)
      | none => .ok (record, after)
    | .ok (true, start) =>
      match slot.read start with
      | .error e => .error e
      | .ok (change, after) => readPositions layout rest (index + 1) (change record) after
where
  /-- The record, if what follows it is in order. -/
  withRest' (record : α) (result : Except Fault Bytes) : Except Fault (α × Bytes) :=
    match result with
    | .error e => .error e
    | .ok after => .ok (record, after)

/-- A record, as an object or as an array. -/
def reader (layout : Layout α) : Reader α := fun bytes =>
  match skipSpace bytes with
  | [] => .error .endInValue
  | b :: rest =>
    if b = 0x5B then readPositions layout layout.slots 0 layout.blank rest
    else if b = 0x7B then readMembers layout (rest.length + 1) true layout.blank [] rest
    else .error (mismatch ("struct " ++ layout.title) (b :: rest))

end Layout

/-! ## Whole texts -/

/-- The value of a whole text, with nothing but blanks after it. -/
def readAll {α : Type} (reader : Reader α) (bytes : Bytes) : Except Fault α :=
  match reader bytes with
  | .error e => .error e
  | .ok (a, rest) =>
    match skipSpace rest with
    | [] => .ok a
    | _ :: _ => .error .trailingText

end ApiStubs.Json
