/-!
# Why a settings document is refused
-/

namespace ApiStubs.Toml

/-- Why a settings document is refused. -/
inductive Fault where
  /-- a breach of the notation -/
  | malformed
  /-- a key with more names than a reader follows -/
  | keyTooLong
  /-- a key or a table that is defined twice -/
  | redefined (key : String)
  /-- a value of a kind that the setting does not take -/
  | wrongKind (key : String)
  deriving DecidableEq, Repr, Inhabited

/-- The text of the diagnostic, without what it says about the place. -/
def Fault.message : Fault → String
  | .keyTooLong => "recursion limit\n"
  | _ => "TOML parse error"

end ApiStubs.Toml
