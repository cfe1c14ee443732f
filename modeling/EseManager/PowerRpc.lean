import EseManager.PowerManager
import EseManager.Lib.Parcel

/-!
# The power manager over Binder

`BneSEPowerManager::onTransact` is the stub that reads a request and calls the implementation, and the methods of
`BpeSEPowerManager` are the proxies that send a request and read the reply. `BneSEPowerManagerCb::onTransact` is the stub of the
callbacks. The case for `TRANSACTION_KILLALL` is compiled only with `eSEClient_Debug`.

The implementation is what it returns for each method. The methods that a stub has called for a transaction are part of what it
makes of it.
-/

namespace EseManager

open Ipc

def transactionPoweron : UInt32 := 1
def transactionPoweroff : UInt32 := 2
def transactionGetstate : UInt32 := 3
def transactionKillall : UInt32 := 4
def transactionGetEseBindingStatus : UInt32 := 5
def transactionNotifyCallback : UInt32 := 1

/-- The interface descriptor of `IeSEPowerManager`. -/
def ieSEPowerManager : String := "IeSEPowerManager"

/-- The interface descriptor of `IeSEPowerManagerCb`. -/
def ieSEPowerManagerCb : String := "IeSEPowerManagercb"

/-- The methods of `IeSEPowerManager`. -/
inductive PowerMethod where
  | powerOn (notifier : Option Binder)
  | powerOff
  | getState
  | killall
  | geteSEBindingStatus
  deriving DecidableEq, Repr

/-! ## The stubs -/

/-- What the stub makes of a transaction: the status it returns, the reply, and the methods it has called. -/
structure PowerServed where
  status : Int
  reply : Parcel Binder
  calls : List PowerMethod

/-- A case of `BneSEPowerManager::onTransact`: check the interface token, call the method, write its value. -/
def serve (mem : Allocator) (impl : PowerMethod → Int32) (data : Parcel Binder) (m : PowerMethod) : PowerServed :=
  if data.checkInterface ieSEPowerManager = false then
    ⟨permissionDenied, Parcel.empty, []⟩
  else
    let (_, reply) := Parcel.empty.writeNoException mem
    let (_, reply) := reply.writeInt32 mem (impl m).toUInt32
    ⟨noError, reply, [m]⟩

/-- `BneSEPowerManager::onTransact`. -/
def powerOnTransact (debug : Bool) (mem : Allocator) (impl : PowerMethod → Int32) (base : BBinder Binder) (code : UInt32)
    (data : Parcel Binder) : PowerServed :=
  if code = transactionPoweron then
    serve mem impl data (.powerOn data.readStrongBinder.1)
  else if code = transactionPoweroff then
    serve mem impl data .powerOff
  else if code = transactionGetstate then
    serve mem impl data .getState
  else if code = transactionKillall ∧ debug = true then
    serve mem impl data .killall
  else if code = transactionGetEseBindingStatus then
    serve mem impl data .geteSEBindingStatus
  else
    -- the status of `BBinder::onTransact` goes into `retStatus`, which is not what is returned
    let (_, reply) := base code data
    ⟨noError, reply, []⟩

/-- What the stub of the callbacks makes of a transaction; `events` are those it has given to `notifyCallback`. -/
structure CbServed where
  status : Int
  reply : Parcel Binder
  events : List Int32

/-- `BneSEPowerManagerCb::onTransact`. -/
def cbOnTransact (mem : Allocator) (base : BBinder Binder) (code : UInt32) (data : Parcel Binder) : CbServed :=
  if code = transactionNotifyCallback then
    if data.checkInterface ieSEPowerManagerCb = false then
      ⟨permissionDenied, Parcel.empty, []⟩
    else
      let (event, _) := data.readInt32
      let (_, reply) := Parcel.empty.writeNoException mem
      -- `ret` keeps its first value
      ⟨unknownError, reply, [event.toInt32]⟩
  else
    let (status, reply) := base code data
    ⟨status, reply, []⟩

/-! ## The proxies -/

/-- The server at the other end: what it makes of a transaction. -/
abbrev PowerRemote := UInt32 → Parcel Binder → PowerServed

/-- What a proxy returns, and the methods that the server has called for it. -/
structure PowerReturned where
  value : Int
  calls : List PowerMethod
  deriving DecidableEq, Repr

/-- The body of the proxies: send the request, read the exception code and the value. -/
def bpCall (remote : PowerRemote) (code : UInt32) (data : Parcel Binder) : PowerReturned :=
  let o := remote code data
  let (res, reply) := answered (some o.status) o.reply
  if res ≠ noError then
    ⟨res, o.calls⟩
  else
    let (res, reply) := reply.readExceptionCode
    if res < 0 then
      ⟨res, o.calls⟩
    else
      let (res, _) := reply.readInt32
      ⟨res.toInt32.toInt, o.calls⟩

/-- `BpeSEPowerManager::powerOn`. -/
def bpPowerOn (remote : PowerRemote) (notifier : Option Binder) : PowerReturned :=
  bpCall remote transactionPoweron ((Parcel.empty.writeInterfaceToken ieSEPowerManager).writeStrongBinder notifier)

/-- `BpeSEPowerManager::powerOff`. -/
def bpPowerOff (remote : PowerRemote) : PowerReturned :=
  bpCall remote transactionPoweroff (Parcel.empty.writeInterfaceToken ieSEPowerManager)

/-- `BpeSEPowerManager::getState`. -/
def bpGetState (remote : PowerRemote) : PowerReturned :=
  bpCall remote transactionGetstate (Parcel.empty.writeInterfaceToken ieSEPowerManager)

/-- `BpeSEPowerManager::killall`. -/
def bpKillall (remote : PowerRemote) : PowerReturned :=
  bpCall remote transactionKillall (Parcel.empty.writeInterfaceToken ieSEPowerManager)

/-- `BpeSEPowerManager::geteSEBindingStatus`. -/
def bpGeteSEBindingStatus (remote : PowerRemote) : PowerReturned :=
  bpCall remote transactionGetEseBindingStatus (Parcel.empty.writeInterfaceToken ieSEPowerManager)

/-- The proxy of a method. -/
def PowerMethod.proxy (remote : PowerRemote) : PowerMethod → PowerReturned
  | .powerOn notifier => bpPowerOn remote notifier
  | .powerOff => bpPowerOff remote
  | .getState => bpGetState remote
  | .killall => bpKillall remote
  | .geteSEBindingStatus => bpGeteSEBindingStatus remote

end EseManager
