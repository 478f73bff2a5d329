import ApiStubs.Failure
import ApiStubs.Text.Casing

/-!
# Log levels
-/

namespace ApiStubs

/-- How much is logged, from everything to nothing. -/
inductive LogLevel where
  | trace
  | debug
  | info
  | warn
  | error
  | off
  deriving DecidableEq, Repr, Inhabited

namespace LogLevel

/-- The name of the level. -/
def name : LogLevel → String
  | .trace => "TRACE"
  | .debug => "DEBUG"
  | .info => "INFO"
  | .warn => "WARN"
  | .error => "ERROR"
  | .off => "OFF"

/-- The place of the level, from the most to the least that is logged. -/
def rank : LogLevel → Nat
  | .trace => 0
  | .debug => 1
  | .info => 2
  | .warn => 3
  | .error => 4
  | .off => 5

/-- The words for levels. -/
def words : List (String × LogLevel) := [
  ("trace", .trace), ("debug", .debug), ("info", .info), ("warn", .warn), ("warning", .warn),
  ("error", .error), ("off", .off), ("none", .off)]

/-- The level that a word stands for, in any case of its letters. -/
def ofText (text : String) : Except Failure LogLevel :=
  let word := Text.lowerAscii text
  match words.find? (fun entry => entry.1 == word) with
  | none => .error (.settings (.unknownLevel word))
  | some entry => .ok entry.2

/-- A level in its place among levels in increasing order. -/
def insertSorted (level : LogLevel) : List LogLevel → List LogLevel
  | [] => [level]
  | other :: rest =>
    if level.rank ≤ other.rank then level :: other :: rest else other :: insertSorted level rest

/-- Levels in increasing order. -/
def sort (levels : List LogLevel) : List LogLevel := levels.foldr insertSorted []

end LogLevel

end ApiStubs
