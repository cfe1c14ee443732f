import EseManager.Lib.Parcel
import EseManager.ManagerService

/-!
# The manager service over Binder

`BneseManagerService::onTransact` is the stub that parses a request, gives the service pointers into the two parcels and sends back
what it has left in the reply; `BpeseManagerService` are the proxies. A buffer travels inside a parcel, with its padding.

What the stub has called for a transaction, and which buffer of the reply it has cleared, are part of what it makes of it: a pointer
is there as the bytes from it to the end of its parcel, `none` if it is null.
-/

namespace EseManager

open Ipc

def setSomething : UInt32 := 1
def getSomething : UInt32 := 2
def cmdSendCommand : UInt32 := 3
def cmdSendCommandEx : UInt32 := 4
def cmdGetcplc : UInt32 := 5

/-- The interface descriptor of `IeseManagerService`. -/
def ieseManagerService : String := "android.hardware.IeseManagerService"

/-- A pointer into a parcel. -/
abbrev Ptr := Option (List UInt8)

/-- What the stub does for a transaction: the methods it calls, and the `memset` of a buffer in the reply. -/
inductive ManagerEvent where
  | setSomething (a : Int32)
  | getSomething
  | clear (buf : Ptr) (len : UInt32)
  | sendCommand (cmd : Ptr) (cmdLen : UInt32) (rsp : Ptr) (rspLen : UInt32)
  | sendCommandEx (cmdId : UInt32) (buffer : Ptr) (len : UInt32)
  | getEseCplc (cplcBuf : Ptr) (cplcLen : UInt32)
  deriving DecidableEq, Repr

/-! ## The stub -/

/-- What the stub makes of a transaction: the status it returns (`none` when it has died writing through a null pointer), the reply,
and what it has done. -/
structure ManagerServed where
  status : Option Int
  reply : Parcel Empty
  events : List ManagerEvent

/-- `memset(buf, 0x00, len)`, on a buffer of at least `len` bytes. -/
def cleared (buf : List UInt8) (len : UInt32) : List UInt8 := List.replicate len.toNat 0 ++ buf.drop len.toNat

/-- The case `CMD_SEND_COMMAND`. -/
def serveSendCommand (mem : Allocator) (service : ManagerService) (data : Parcel Empty) : ManagerServed :=
  let (cmdLen, data) := data.readInt32
  let (rspLen, data) := data.readInt32
  if 0xFFFFFFFF - cmdLen < rspLen then
    ⟨some badValue, Parcel.empty, []⟩
  else if cmdLen = 0 ∨ rspLen = 0 then
    ⟨some badValue, Parcel.empty, []⟩
  else
    let (cmd, _) := data.readInplace cmdLen.toNat
    match (Parcel.empty : Parcel Empty).writeInplace mem rspLen.toNat with
    | (none, reply) => ⟨none, reply, [.clear none rspLen]⟩
    | (some room, reply) =>
      let rsp := cleared room rspLen
      let o := service.sendCommand (mem.at cmd) cmdLen (mem.at (some rsp)) rspLen
      ⟨some o.status, reply.store 0 (o.buf.read 0 rsp.length),
        [.clear (some room) rspLen, .sendCommand cmd cmdLen (some rsp) rspLen]⟩

/-- The case `CMD_SEND_COMMAND_EX`. -/
def serveSendCommandEx (mem : Allocator) (service : ManagerService) (data : Parcel Empty) : ManagerServed :=
  let (cmdId, data) := data.readInt32
  let (bufferLen, data) := data.readInt32
  let (buffer, _) := data.readInplace bufferLen.toNat
  let status := service.sendCommandEx cmdId (mem.at buffer) bufferLen
  let (ret, reply) := (Parcel.empty : Parcel Empty).writeInt32 mem status.toUInt32
  ⟨some ret, reply, [.sendCommandEx cmdId buffer bufferLen]⟩

/-- The case `CMD_GETCPLC`. -/
def serveGetEseCplc (mem : Allocator) (service : ManagerService) (data : Parcel Empty) : ManagerServed :=
  let (cplcLen, _) := data.readInt32
  if cplcLen = 0 then
    ⟨some badValue, Parcel.empty, []⟩
  else
    match (Parcel.empty : Parcel Empty).writeInplace mem cplcLen.toNat with
    | (none, reply) => ⟨none, reply, [.clear none cplcLen]⟩
    | (some room, reply) =>
      let cplcBuf := cleared room cplcLen
      let (o, len) := service.getEseCplc (mem.at (some cplcBuf)) cplcLen
      let reply := reply.store 0 (o.buf.read 0 cplcBuf.length)
      let reply := if o.status = noError then (reply.writeInt32 mem len).2 else reply
      ⟨some o.status, reply, [.clear (some room) cplcLen, .getEseCplc (some cplcBuf) cplcLen]⟩

/-- `BneseManagerService::onTransact`. -/
def managerOnTransact (mem : Allocator) (service : ManagerService) (base : BBinder Empty) (code : UInt32)
    (data : Parcel Empty) : ManagerServed :=
  if code ∈ [setSomething, getSomething, cmdSendCommand, cmdSendCommandEx, cmdGetcplc] ∧
      data.checkInterface ieseManagerService = false then
    ⟨some permissionDenied, Parcel.empty, []⟩
  else if code = setSomething then
    let (a, _) := data.readInt32
    let (ret, reply) := (Parcel.empty : Parcel Empty).writeInt32 mem (service.setSomething a.toInt32).toUInt32
    ⟨some ret, reply, [.setSomething a.toInt32]⟩
  else if code = getSomething then
    let (ret, reply) := (Parcel.empty : Parcel Empty).writeInt32 mem service.getSomething.toUInt32
    ⟨some ret, reply, [.getSomething]⟩
  else if code = cmdSendCommand then
    serveSendCommand mem service data
  else if code = cmdSendCommandEx then
    serveSendCommandEx mem service data
  else if code = cmdGetcplc then
    serveGetEseCplc mem service data
  else
    let (status, reply) := base code data
    ⟨some status, reply, []⟩

/-! ## The proxies -/

/-- The server at the other end: what it makes of a transaction. -/
abbrev ManagerRemote := UInt32 → Parcel Empty → ManagerServed

/-- `remote()->transact`: the result, the reply, and what the server has done. A parcel that has run out of memory is not sent. -/
def managerTransact (remote : ManagerRemote) (code : UInt32) (data : Parcel Empty) :
    Int × Parcel Empty × List ManagerEvent :=
  if data.error < 0 then
    (data.error, Parcel.empty, [])
  else
    let o := remote code data
    let (rv, reply) := answered o.status o.reply
    (rv, reply, o.events)

/-- What a proxy gives: the value it returns (`none` when it has died reading through a null pointer), the bytes behind the output
pointer of its caller, and what the server has done. -/
structure BpReturned where
  value : Option Int
  buf : Mem
  events : List ManagerEvent

/-- A request of the proxies: the interface token. -/
def managerRequest : Parcel Empty := Parcel.empty.writeInterfaceToken ieseManagerService

/-- `BpeseManagerService::sendCommand`. -/
def bpSendCommand (mem : Allocator) (remote : ManagerRemote) (cmd : Option Mem) (cmdLen : UInt32) (rsp : Option Mem)
    (rspLen : UInt32) : BpReturned :=
  match cmd, rsp with
  | some cmd, some rsp =>
    if cmdLen = 0 ∨ rspLen = 0 then
      ⟨some badValue, rsp, []⟩
    else
      let (_, data) := managerRequest.writeInt32 mem cmdLen
      let (_, data) := data.writeInt32 mem rspLen
      let (_, data) := data.write mem (cmd.read 0 cmdLen.toNat)
      let (rv, reply, events) := managerTransact remote cmdSendCommand data
      if rv ≠ noError then
        ⟨some rv, rsp, events⟩
      else
        match reply.readInplace rspLen.toNat with
        | (none, _) => ⟨none, rsp, events⟩
        | (some bytes, _) => ⟨some rv, rsp.write 0 (bytes.take rspLen.toNat), events⟩
  | _, rsp => ⟨some badValue, rsp.getD (fun _ => 0), []⟩

/-- `BpeseManagerService::sendCommandEx`: the value and what the server has done. The buffer is not null. -/
def bpSendCommandEx (mem : Allocator) (remote : ManagerRemote) (cmdId : UInt32) (buffer : Mem) (len : UInt32) :
    Int × List ManagerEvent :=
  let (_, data) := managerRequest.writeInt32 mem cmdId
  let (_, data) := data.writeInt32 mem len
  let (_, data) := data.write mem (buffer.read 0 len.toNat)
  let (rv, reply, events) := managerTransact remote cmdSendCommandEx data
  if rv ≠ noError then
    (rv, events)
  else
    let (rv, _) := reply.readInt32
    (rv.toInt32.toInt, events)

/-- `BpeseManagerService::getEseCplc`, and `*cplc_len` afterwards. The length pointer is not null. -/
def bpGetEseCplc (mem : Allocator) (remote : ManagerRemote) (cplcBuf : Option Mem) (cplcLen : UInt32) :
    BpReturned × UInt32 :=
  match cplcBuf with
  | none => (⟨some badValue, fun _ => 0, []⟩, cplcLen)
  | some buf =>
    if cplcLen = 0 then
      (⟨some badValue, buf, []⟩, cplcLen)
    else
      let buf := buf.write 0 (List.replicate cplcLen.toNat 0)
      let (_, data) := managerRequest.writeInt32 mem cplcLen
      let (ret, reply, events) := managerTransact remote cmdGetcplc data
      if ret ≠ noError then
        (⟨some ret, buf, events⟩, cplcLen)
      else
        match reply.read cplcLen.toNat with
        | (ret, bytes, reply) =>
          if ret ≠ noError then
            (⟨some ret, buf, events⟩, cplcLen)
          else
            let (len, _) := reply.readInt32
            (⟨some noError, buf.write 0 bytes, events⟩, len)

end EseManager
