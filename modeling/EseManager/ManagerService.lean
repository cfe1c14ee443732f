import EseManager.Lib.Parcel
import EseManager.TeeClient

/-!
# The manager service

The methods of `eseManagerService`. `sendCommand` and `getEseCplc` hand a request to the TEE client, and turn every result that is
not negative into `NO_ERROR`; `sendCommandEx` hands one of three commands to the client of the fingerprint application.
-/

namespace EseManager

open Ipc (badValue)

/-- What a method of the service gives: the status, and the bytes behind the caller's output pointer. -/
structure ServiceOutcome where
  status : Int
  buf : Mem

/-- The uid test of `sendCommand`: system and root pass. -/
def sendCommandAllowed (uid : Int) : Bool := appUid uid == systemUid || appUid uid == rootUid

/-- A result of the TEE client as a status. -/
def caStatus (ret : Int32) : Int := if ret < 0 then ret.toInt else noError

/-- `eseManagerService::sendCommand`. -/
def serviceSendCommand (t : TeeAnswers) (uid : Int) (cmd : Option Mem) (cmdLen : UInt32) (rsp : Option Mem)
    (rspLen : UInt32) : ServiceOutcome :=
  if sendCommandAllowed uid = false then
    ⟨permissionDenied, rsp.getD (fun _ => 0)⟩
  else
    let o := caSendEseCommand t cmd cmdLen rsp rspLen
    ⟨caStatus o.ret, o.buf⟩

/-- `eseManagerService::getEseCplc`: the outcome and `*cplc_len` afterwards. The length pointer is not null. -/
def serviceGetEseCplc (t : TeeAnswers) (cplcBuf : Option Mem) (cplcLen : UInt32) : ServiceOutcome × UInt32 :=
  match cplcBuf with
  | none => (⟨badValue, fun _ => 0⟩, cplcLen)
  | some buf =>
    if cplcLen = 0 then
      (⟨badValue, buf⟩, cplcLen)
    else
      let o := caGetEseCplc t (some buf) cplcLen
      (⟨caStatus o.1.ret, o.1.buf⟩, o.2)

/-- `START_BINDING`. -/
def startBinding : UInt32 := 1094

/-- `CLEAR_BINDING_INFO`. -/
def clearBindingInfo : UInt32 := 1095

/-- `GET_ESE_BINDDING_STATUS`. -/
def getEseBinddingStatus : UInt32 := 1096

/-- The client of the fingerprint application, which is not part of the repository: what its functions return. -/
structure FpClient where
  geteSEBindingStatus : Int32
  startBinding : Int32
  clearBindingInfo : Option Mem → UInt32 → Int32

/-- The uid test of `sendCommandEx`: system, root and radio pass. -/
def sendCommandExAllowed (uid : Int) : Bool :=
  appUid uid == systemUid || appUid uid == rootUid || appUid uid == radioUid

/-- `eseManagerService::sendCommandEx`. -/
def serviceSendCommandEx (fp : FpClient) (uid : Int) (cmdId : UInt32) (buffer : Option Mem) (len : UInt32) : Int32 :=
  if sendCommandExAllowed uid = false then
    Int32.ofInt permissionDenied
  else if cmdId = getEseBinddingStatus then
    fp.geteSEBindingStatus
  else if cmdId = startBinding then
    fp.startBinding
  else if cmdId = clearBindingInfo then
    fp.clearBindingInfo buffer len
  else
    Int32.ofInt unknownError

/-- The methods of `IeseManagerService`, as the stub calls them. -/
structure ManagerService where
  setSomething : Int32 → Int32
  getSomething : Int32
  sendCommand : Option Mem → UInt32 → Option Mem → UInt32 → ServiceOutcome
  sendCommandEx : UInt32 → Option Mem → UInt32 → Int32
  getEseCplc : Option Mem → UInt32 → ServiceOutcome × UInt32

/-- `eseManagerService`, for a caller and what the two clients give it. -/
def eseManagerService (t : TeeAnswers) (fp : FpClient) (uid : Int) (myParam : Int32) : ManagerService where
  setSomething _ := 0
  getSomething := myParam
  sendCommand := serviceSendCommand t uid
  sendCommandEx := serviceSendCommandEx fp uid
  getEseCplc := serviceGetEseCplc t

end EseManager
