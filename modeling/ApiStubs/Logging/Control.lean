import ApiStubs.Logging.Level

/-!
# Changing the level while running

A control is installed once, with a level; from then on the level can be changed.
-/

namespace ApiStubs

/-- The level in force, absent until logging is installed. -/
structure LogControl where
  level : Option LogLevel
  deriving DecidableEq, Repr, Inhabited

namespace LogControl

/-- A control that is not installed. -/
def fresh : LogControl := ⟨none⟩

/-- Whether logging is installed. -/
def isInstalled (control : LogControl) : Bool := control.level.isSome

/-- Install logging with a level, or change the level when it is installed already. -/
def install (_ : LogControl) (level : LogLevel) : LogControl := ⟨some level⟩

/-- Change the level. -/
def reload (control : LogControl) (level : LogLevel) : Except Failure LogControl :=
  match control.level with
  | none => .error (.notReady "logging")
  | some _ => .ok ⟨some level⟩

/-- The name of the filter that the level puts in force. -/
def filterName (level : LogLevel) : String := Text.lowerAscii level.name

end LogControl

end ApiStubs
