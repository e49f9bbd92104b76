import FilterQuery.Json.Fault
import FilterQuery.Settings.Basic

/-!
# Failures

Turning parameters into a filter never fails.  What can fail is reading a number that controls
paging and reading the settings.
-/

namespace FilterQuery

/-- Why there is no result. -/
inductive Failure where
  /-- The parameter `key` should be an unsigned number and is `value`. -/
  | invalidNumber (key value : Text)
  /-- The settings can be read but not used. -/
  | unusable (reason : Text)
  /-- The settings cannot be read. -/
  | unreadable (fault : Json.Fault)
  deriving DecidableEq, Repr

namespace Failure

/-- The text of a failure.  Of settings that cannot be read it is the part that does not depend on
the fault. -/
def message : Failure → Text
  | .invalidNumber key value =>
    "parameter '".toList ++ key ++ "' expects an unsigned integer, got '".toList ++ value ++ ['\'']
  | .unusable reason => "invalid configuration: ".toList ++ reason
  | .unreadable _ => "serialization failed: ".toList

/-- The fault of the text behind a failure, if there is one. -/
def fault? : Failure → Option Json.Fault
  | .unreadable fault => some fault
  | _ => none

end Failure

/-- Refuses settings that leave a parameter without a name. -/
def Settings.check (settings : Settings) : Except Failure Unit :=
  match settings.firstEmpty? with
  | some setting => .error (.unusable setting.emptyReason)
  | none => .ok ()

end FilterQuery
