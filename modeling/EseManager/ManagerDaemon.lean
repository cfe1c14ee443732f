import EseManager.Lib.Machine
import EseManager.ManagerRpc

/-!
# The manager daemon

The process of `eseManagerService`, from one transaction to the next: what it makes of the requests of any callers, one at a time. It
keeps the number that `setSomething` adds to and `getSomething` reads, which starts at zero with every start of the process.

What the service does for a call is told apart here by where it goes: to the TEE client, or to the client of the fingerprint application.

A write through a null pointer ends the process. So may a copy of the TEE client that leaves the parcel or the shared memory it is meant
for; when the process outlives that, nothing is said about its number. Until it is restarted nobody is answered.
-/

namespace EseManager

open Ipc

/-- A call of the client of the fingerprint application. -/
inductive FpCall where
  | geteSEBindingStatus
  | startBinding
  | clearBindingInfo (verifyData : Ptr) (len : UInt32)
  deriving DecidableEq, Repr

/-- What the service has the TEE client do for a call. -/
def ManagerEvent.teeEvents (mem : Allocator) (t : TeeAnswers) (uid : Int) : ManagerEvent → List TeeEvent
  | .sendCommand cmd cmdLen rsp rspLen =>
    if sendCommandAllowed uid = false then [] else (caSendEseCommand t (mem.at cmd) cmdLen (mem.at rsp) rspLen).events
  | .getEseCplc cplcBuf cplcLen => (caGetEseCplc t (mem.at cplcBuf) cplcLen).1.events
  | _ => []

/-- What the service asks of the fingerprint client for a call. -/
def ManagerEvent.fpCalls (uid : Int) : ManagerEvent → List FpCall
  | .sendCommandEx cmdId buffer len =>
    if sendCommandExAllowed uid = false then []
    else if cmdId = getEseBinddingStatus then [.geteSEBindingStatus]
    else if cmdId = startBinding then [.startBinding]
    else if cmdId = clearBindingInfo then [.clearBindingInfo buffer len]
    else []
  | _ => []

/-- The access goes past the memory it is meant for: the parcels, from the two pointers to their ends, and the output memory. -/
def TeeEvent.leaves (cmd rsp : Ptr) (outputSize : UInt32) : TeeEvent → Bool
  | .readCmd off len => (cmd.getD []).length < off + len
  | .loadShm .output off len => outputSize.toNat < off + len
  | .storeRsp off bytes => (rsp.getD []).length < off + bytes.length
  | _ => false

/-- The access, made for this call of the service, goes past its memory. -/
def ManagerEvent.leaves : ManagerEvent → TeeEvent → Bool
  | .sendCommand cmd _ rsp rspLen => TeeEvent.leaves cmd rsp rspLen
  | .getEseCplc cplcBuf cplcLen => TeeEvent.leaves none cplcBuf cplcLen
  | _ => fun _ => false

/-- A copy that is made for the call goes past its memory. -/
def ManagerEvent.overruns (mem : Allocator) (t : TeeAnswers) (uid : Int) (e : ManagerEvent) : Bool :=
  (e.teeEvents mem t uid).any e.leaves

/-- `myParam` after a call: the sum wraps around. -/
def ManagerEvent.paramAfter (myParam : Int32) : ManagerEvent → Int32
  | .setSomething a => myParam + a
  | _ => myParam

/-- `BpeseManagerService::setSomething`; the result of the transaction is ignored. -/
def bpSetSomething (mem : Allocator) (remote : ManagerRemote) (a : Int32) : Int32 :=
  let (_, data) := managerRequest.writeInt32 mem a.toUInt32
  let (_, reply, _) := managerTransact remote setSomething data
  reply.readInt32.1.toInt32

/-- `BpeseManagerService::getSomething`; the result of the transaction is ignored. -/
def bpGetSomething (remote : ManagerRemote) : Int32 :=
  let (_, reply, _) := managerTransact remote getSomething managerRequest
  reply.readInt32.1.toInt32

/-- A transaction: its caller, its code and its parcel, what the two clients answer while it is served, and what is left when a copy
goes past its memory: `myParam`, or `none` when the process dies of it. -/
structure Transaction where
  uid : Int
  code : UInt32
  data : Parcel Empty
  tee : TeeAnswers
  fp : FpClient
  overrun : Option Int32

/-- A transaction, or a start of the process. -/
inductive ManagerInput where
  | transact (x : Transaction)
  | restart

/-- What becomes of a transaction: the status (`none` when the process has died) and the reply, and what was done for it. -/
structure ManagerDone where
  status : Option Int
  reply : Parcel Empty
  teeEvents : List TeeEvent
  fpCalls : List FpCall

/-- Nobody is there. -/
def ManagerDone.nothing : ManagerDone := { status := none, reply := Parcel.empty, teeEvents := [], fpCalls := [] }

/-- What the stub makes of a transaction when `myParam` has this value and no copy kills the process. -/
def Transaction.stubbed (mem : Allocator) (base : BBinder Empty) (myParam : Int32) (x : Transaction) : ManagerServed :=
  managerOnTransact mem (eseManagerService x.tee x.fp x.uid myParam) base x.code x.data

/-- A copy that is made for the transaction goes past its memory. -/
def Transaction.overruns (mem : Allocator) (x : Transaction) (o : ManagerServed) : Bool :=
  o.events.any (ManagerEvent.overruns mem x.tee x.uid)

/-- What becomes of a transaction when `myParam` has this value. -/
def Transaction.served (mem : Allocator) (base : BBinder Empty) (myParam : Int32) (x : Transaction) : ManagerServed :=
  let o := x.stubbed mem base myParam
  if x.overruns mem o = true ∧ x.overrun = none then { o with status := none } else o

/-- `myParam` after a transaction that the process outlives. -/
def Transaction.paramAfter (mem : Allocator) (myParam : Int32) (x : Transaction) (o : ManagerServed) : Int32 :=
  if x.overruns mem o = true then x.overrun.getD myParam else o.events.foldl ManagerEvent.paramAfter myParam

/-- What the TEE client does for a transaction: when the process dies of a copy, what comes before that. -/
def Transaction.teeEvents (mem : Allocator) (x : Transaction) (o : ManagerServed) : List TeeEvent :=
  o.events.flatMap fun e =>
    if o.status = none then (e.teeEvents mem x.tee x.uid).takeWhile fun access => !e.leaves access
    else e.teeEvents mem x.tee x.uid

/-- The daemon in a state, at the other end of a proxy of a caller. -/
def daemonRemote (mem : Allocator) (base : BBinder Empty) (s : Option Int32) (uid : Int) (t : TeeAnswers) (fp : FpClient)
    (overrun : Option Int32) : ManagerRemote := fun code data =>
  match s with
  | none => ⟨none, Parcel.empty, []⟩
  | some myParam => Transaction.served mem base myParam ⟨uid, code, data, t, fp, overrun⟩

/-- The daemon: its state is `myParam`, or `none` when the process has died. -/
def managerDaemon (mem : Allocator) (base : BBinder Empty) : Machine (Option Int32) ManagerInput ManagerDone where
  next s i :=
    match s, i with
    | _, .restart => some 0
    | none, .transact _ => none
    | some myParam, .transact x =>
      let o := x.served mem base myParam
      o.status.map fun _ => x.paramAfter mem myParam o
  out s i :=
    match s, i with
    | some myParam, .transact x =>
      let o := x.served mem base myParam
      { status := o.status
        reply := o.reply
        teeEvents := x.teeEvents mem o
        fpCalls := o.events.flatMap (ManagerEvent.fpCalls x.uid) }
    | _, _ => .nothing

end EseManager
