import ApiStubs.Template.Arithmetic

/-!
# Equality and containment of template values

Values are compared by what they look like from outside: numbers by their value, lists item by item,
and everything that has members as a map, key by key.
-/

namespace ApiStubs.Template.Value

mutual

/-- A value as it looks from outside: items as a list, members as a map. -/
def outward : Value → Value
  | .list items => .list (outwardItems items)
  | .chain _ items => .list (outwardItems items)
  | .map entries => .map (outwardEntries entries)
  | .named entries => .map (outwardEntries entries)
  | .routine r => .map (routineEntries r)
  | .round _ index length previous next =>
    .map (roundEntries index length (outward previous) (outward next))
  | v => v

/-- Items as they look from outside. -/
def outwardItems : List Value → List Value
  | [] => []
  | v :: rest => outward v :: outwardItems rest

/-- Entries as they look from outside. -/
def outwardEntries : List (String × Value) → List (String × Value)
  | [] => []
  | (key, v) :: rest => (key, outward v) :: outwardEntries rest

end

mutual

/-- Equality of values that are nothing but lists, maps and what has no parts. -/
def sameOutward : Value → Value → Bool
  | .undefined, .undefined => true
  | .none, .none => true
  | .text a, .text b => a == b
  | .list as, .list bs => sameItems as bs
  | .map as, .map bs => as.length == bs.length && sameEntries as bs
  | .function f, .function g => f.label == g.label
  | a, b => sameNumber a b

/-- Equality of lists. -/
def sameItems : List Value → List Value → Bool
  | [], [] => true
  | a :: as, b :: bs => sameOutward a b && sameItems as bs
  | _, _ => false

/-- Whether every entry is found among others. -/
def sameEntries : List (String × Value) → List (String × Value) → Bool
  | [], _ => true
  | (k, a) :: as, others =>
    (match findEntry k others with
      | some b => sameOutward a b
      | Option.none => false) && sameEntries as others

end

/-- Equality of values. -/
def same (a b : Value) : Bool := sameOutward a.outward b.outward

/-- Whether a text occurs inside another. -/
def occursIn (part : List Char) : List Char → Bool
  | [] => part.isEmpty
  | c :: rest => (Text.afterLead? part (c :: rest)).isSome || occursIn part rest

/-- Whether a value is contained in another: a part of a text, an item of a list, a key of a map. -/
def containedIn? (v container : Value) : Option Bool :=
  match container with
  | .text s => some (occursIn v.print.toList s.toList)
  | .list items => some (items.any fun item => same item v)
  | .chain _ items => some (items.any fun item => same item v)
  | .function _ => some false
  | _ =>
    container.entries?.map fun entries => v.text?.any fun key => (findEntry key entries).isSome

end ApiStubs.Template.Value
