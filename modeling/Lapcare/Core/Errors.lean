import Lapcare.Core.Models

/-!
# The exception hierarchy

`core/errors.py`: providers translate every underlying failure into one of these at
the provider boundary. `PyException` adds what Python itself may raise, so that an
`except LapcareError` that lets something through can be represented.
-/

namespace Lapcare.Core

/-- The `LapcareError` hierarchy; `lapcareError` is the base class raised as such. -/
inductive LapcareError
  | lapcareError (detail : String)
  | providerUnavailable (source : String) (reason : Availability) (tool : Option String)
  | providerTimeout (source detail : String)
  | providerParseError (source detail : String)
  | privilegedActionDenied (action : String)
  | firmwareInstallFailed (deviceId detail : String)
  deriving DecidableEq

namespace LapcareError

/-- `str(exc)`. -/
def message : LapcareError → String
  | lapcareError detail => detail
  | providerUnavailable source reason tool =>
      s!"{source}: {reason.value}" ++
        match tool with
        | some name => if name = "" then "" else s!" ({name})"
        | none => ""
  | providerTimeout source detail => s!"{source}: timeout: {detail}"
  | providerParseError source detail => s!"{source}: parse error: {detail}"
  | privilegedActionDenied action => s!"authorization declined: {action}"
  | firmwareInstallFailed deviceId detail => s!"firmware install failed ({deviceId}): {detail}"

end LapcareError

/-- An exception as Python code sees it: one of the hierarchy, or a foreign class. -/
inductive PyException
  | lapcare (error : LapcareError)
  | foreign (className detail : String)
  deriving DecidableEq

namespace PyException

def message : PyException → String
  | lapcare error => error.message
  | foreign _ detail => detail

/-- What `except LapcareError` catches. -/
def IsLapcare : PyException → Prop
  | lapcare _ => True
  | foreign _ _ => False

instance : DecidablePred IsLapcare
  | lapcare _ => isTrue trivial
  | foreign _ _ => isFalse id

@[simp] theorem isLapcare_lapcare (error : LapcareError) : (lapcare error).IsLapcare := trivial

@[simp] theorem not_isLapcare_foreign (className detail : String) :
    ¬ (foreign className detail).IsLapcare := id

end PyException

end Lapcare.Core
