/-!
# Ranges and runs of code points

Properties of characters are kept as lists of closed ranges, simple case mappings as lists of runs
that move by one common distance.  Both are searched in order; the tables are short and the searches
are plain list functions, so a statement about a character is a statement about `List.any` and
`List.find?`.
-/

namespace ApiStubs.Text

/-- Whether a code point lies in one of the closed ranges. -/
def inRanges (ranges : List (Nat × Nat)) (code : Nat) : Bool :=
  ranges.any fun r => r.1 ≤ code && code ≤ r.2

/-- The code points `first, first + step, …, last`, each mapped to the code point `shift` away. -/
structure CaseRun where
  first : Nat
  last : Nat
  step : Nat
  shift : Int
  deriving DecidableEq, Repr, Inhabited

namespace CaseRun

/-- Whether the run has a mapping for the code point. -/
def covers (run : CaseRun) (code : Nat) : Bool :=
  run.first ≤ code && code ≤ run.last && (code - run.first) % run.step == 0

/-- The image of a covered code point. -/
def move (run : CaseRun) (code : Nat) : Nat :=
  ((code : Int) + run.shift).toNat

end CaseRun

/-- The full mapping of a code point: a listed sequence, else the image under the first run that
covers it, else the code point itself. -/
def mapCode (runs : List CaseRun) (sequences : List (Nat × List Nat)) (code : Nat) : List Nat :=
  match sequences.find? (fun entry => entry.1 == code) with
  | some entry => entry.2
  | none =>
    match runs.find? (fun run => run.covers code) with
    | some run => [run.move code]
    | none => [code]

end ApiStubs.Text
