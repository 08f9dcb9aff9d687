import Mathlib.Data.UInt

/-! The controller of one call: where the call goes and how it ended. -/

set_option autoImplicit false

namespace CarrotRpc.Common

/-- `enum error_code`; `success` is `EC_SUCCESS` and so on. -/
inductive ErrorCode where
  | success
  | error
  | failed
  | connectionFailed
  | oom
  | serializationError
  | transportError
  | invalidInternalState
  | methodNotFound
  | rpcTimeout
  deriving DecidableEq, Repr

/-- `TIMEOUT_NEVER` -/
def timeoutNever : UInt32 := 0

structure CarrotController where
  failed : Bool := false
  errorText : String := ""
  code : ErrorCode := .success
  host : String := ""
  service : String := ""
  timeout : UInt32
  deriving DecidableEq, Repr

namespace CarrotController

/-- The constructor without arguments leaves `timeout_` uninitialized. Only servers use it,
which never read the field: any value stands for it. -/
def unaddressed : CarrotController := { timeout := timeoutNever }

/-- `SetFailed(reason)` -/
def setFailed (controller : CarrotController) (reason : String) : CarrotController :=
  { controller with errorText := reason, failed := true, code := .failed }

/-- `SetFailed(reason, ec)` -/
def setFailedWith (controller : CarrotController) (reason : String) (code : ErrorCode) :
    CarrotController :=
  { controller.setFailed reason with code := code }

@[simp] theorem setFailed_failed (controller : CarrotController) (reason : String) :
    (controller.setFailed reason).failed = true := rfl

@[simp] theorem setFailedWith_failed (controller : CarrotController) (reason : String)
    (code : ErrorCode) : (controller.setFailedWith reason code).failed = true := rfl

end CarrotController

end CarrotRpc.Common
