import Mathlib.Algebra.Group.Int.Defs
import Mathlib.Algebra.Group.Nat.Defs

/-!
# Status codes and callers

The values that the daemons return, and the caller a request comes from. Statuses are the `status_t` codes of the platform
(negative `errno` values).
-/

namespace EseManager

/-- `NO_ERROR`. -/
def noError : Int := 0

theorem noError_not_neg : ¬noError < 0 := Int.lt_irrefl 0

/-- `PERMISSION_DENIED`, that is `-EPERM`. -/
def permissionDenied : Int := -1

theorem permissionDenied_neg : permissionDenied < 0 := by decide

/-- `UNKNOWN_ERROR`. -/
def unknownError : Int := -2147483648

/-- `EBUSY`. -/
def ebusy : Int := 16

/-- `SYSTEM_UID`. -/
def systemUid : Int := 1000

/-- `ROOT_UID`. -/
def rootUid : Int := 0

/-- `RADIO_UID`. -/
def radioUid : Int := 1001

/-- A process id as the power daemon keys it (`uint32_t`). -/
abbrev Pid := UInt32

/-- `uid %= 100000`: the uid of the app inside its user, with the remainder of C (it takes the sign of the uid). -/
def appUid (uid : Int) : Int := uid.tmod 100000

end EseManager
