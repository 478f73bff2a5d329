import ApiStubs.Settings.Fault
import ApiStubs.Template.Fault
import ApiStubs.Template.Syntax
import ApiStubs.Text.Decimal

/-!
# Why a run fails

Every failure ends the run that met it: no files are returned beside one.  Each kind of failure has
a number, from which the exit status of the command line is taken.
-/

namespace ApiStubs

/-- Why a run fails. -/
inductive Failure where
  /-- there is no template under the key -/
  | assetNotFound (key : String)
  /-- the template under the key is no text -/
  | assetUnusable (key cause : String)
  | templateRefused (template : String) (cause : Template.SyntaxFault)
  | renderFailed (template : String) (cause : Template.Fault)
  /-- a description with more than one service -/
  | tooManyServices (count : Nat)
  | unknownBackend (name : String)
  /-- two outputs of one run with the same name -/
  | duplicateOutput (name : String)
  /-- used before it was made ready -/
  | notReady (name : String)
  | settings (cause : Settings.Fault)
  deriving DecidableEq, Repr, Inhabited

namespace Failure

/-- The number of the kind of failure. -/
def code : Failure → Nat
  | .assetNotFound _ => 1
  | .assetUnusable _ _ => 2
  | .templateRefused _ _ => 3
  | .renderFailed _ _ => 4
  | .tooManyServices _ => 5
  | .unknownBackend _ => 6
  | .duplicateOutput _ => 7
  | .notReady _ => 8
  | .settings _ => 9

/-- The diagnostic without what the template language has to say. -/
def headline : Failure → String
  | .assetNotFound key => "asset not found: " ++ key
  | .assetUnusable key cause => "failed to decode asset " ++ key ++ ": " ++ cause
  | .templateRefused template _ => "failed to compile template " ++ template
  | .renderFailed template _ => "failed to render template " ++ template
  | .tooManyServices count =>
    "found " ++ Text.decimalNat count ++ " services; only 1 service is supported"
  | .unknownBackend name => "unknown backend: " ++ name
  | .duplicateOutput name => "duplicate output file: " ++ name
  | .notReady name => "backend not initialized: " ++ name
  | .settings cause => "configuration error: " ++ cause.message

/-- The whole text of the diagnostic. -/
def message (failure : Failure) : String :=
  match failure with
  | .templateRefused _ cause => failure.headline ++ ": " ++ cause.message
  | .renderFailed _ cause => failure.headline ++ ": " ++ cause.message
  | _ => failure.headline

end Failure

end ApiStubs
