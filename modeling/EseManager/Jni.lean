import EseManager.ManagerRpc
import EseManager.PowerRpc

/-!
# The native methods

`native_eseGetCplc` and `native_eseValidateChipLegality` power the eSE on, ask the manager service for its CPLC and power it off
again; `native_eseSendCommandEx` hands a command for the fingerprint application to the manager service. Between them and the proxies
are the wrappers of `libesepm` and `libesemanager`, which give up when they have no proxy.
-/

namespace EseManager

open Ipc

/-- A Java array of bytes, whose length is a `jsize`. -/
structure JByteArray where
  bytes : List UInt8
  length_le : bytes.length ≤ int32Max

/-- The process that a native method runs in: the memory of its parcels, its proxies (`none` when a daemon cannot be found), the
callback it makes for `powerOn`, what is on its stack, and the lengths for which `NewByteArray` gives an array. -/
structure NativeClient where
  mem : Allocator
  power : Option PowerRemote
  manager : Option ManagerRemote
  cb : Binder
  stack : Mem
  newByteArray : UInt32 → Bool

namespace NativeClient

variable (c : NativeClient)

/-! ## The wrappers -/

/-- `powerOn`. -/
def powerOn : PowerReturned :=
  match c.power with
  | none => ⟨-1, []⟩
  | some remote => bpPowerOn remote (some c.cb)

/-- `powerOff`. -/
def powerOff : PowerReturned :=
  match c.power with
  | none => ⟨-1, []⟩
  | some remote => bpPowerOff remote

/-- `ese_getEseCplc`, and `*cplc_len` afterwards. -/
def eseGetEseCplc (cplcBuf : Mem) (cplcLen : UInt32) : BpReturned × UInt32 :=
  match c.manager with
  | none => (⟨some (-1), cplcBuf, []⟩, cplcLen)
  | some remote => bpGetEseCplc c.mem remote (some cplcBuf) cplcLen

/-- `ese_sendCommandEx`. -/
def eseSendCommandEx (cmdId : UInt32) (buffer : Mem) (len : UInt32) : Int × List ManagerEvent :=
  match c.manager with
  | none => (-1, [])
  | some remote => bpSendCommandEx c.mem remote cmdId buffer len

/-- `getState`. -/
def getState : PowerReturned :=
  match c.power with
  | none => ⟨-1, []⟩
  | some remote => bpGetState remote

/-- `killall`. -/
def killall : PowerReturned :=
  match c.power with
  | none => ⟨-1, []⟩
  | some remote => bpKillall remote

/-- `geteSEBindingStatus`. -/
def geteSEBindingStatus : PowerReturned :=
  match c.power with
  | none => ⟨-1, []⟩
  | some remote => bpGeteSEBindingStatus remote

/-! ## The native methods -/

/-- `uint8_t r_cplc[100] = {0}`. -/
def rCplc : Mem := c.stack.write 0 (List.replicate 100 0)

end NativeClient

/-- What a native method gives: its value (`none` when the process has died), and the methods of the power daemon that were called. -/
structure NativeReturned (α : Type) where
  value : Option α
  calls : List PowerMethod

/-- The body of the native methods: `failed` is what they return when a call fails, and `done` what they make of the buffer and its
length. -/
def withCplc {α : Type} (c : NativeClient) (failed : α) (done : Mem → UInt32 → α) : NativeReturned α :=
  let on := c.powerOn
  if on.value < 0 then
    ⟨some failed, on.calls⟩
  else
    let (r, len) := c.eseGetEseCplc c.rCplc 100
    match r.value with
    | none => ⟨none, on.calls⟩
    | some ret =>
      let off := c.powerOff
      if ret < 0 then
        ⟨some failed, on.calls ++ off.calls⟩
      else
        ⟨some (done r.buf len), on.calls ++ off.calls⟩

/-- `native_eseGetCplc`: the array that it returns, `none` for `NULL`. `SetByteArrayRegion` copies as many bytes out of the buffer as
the array has. -/
def nativeEseGetCplc (c : NativeClient) : NativeReturned (Option (List UInt8)) :=
  withCplc c none fun rCplc len => if c.newByteArray len = true then some (rCplc.read 0 len.toNat) else none

/-- `native_eseValidateChipLegality`. -/
def nativeEseValidateChipLegality (c : NativeClient) : NativeReturned Bool :=
  withCplc c false fun rCplc len =>
    if len < 47 then
      false
    else if rCplc 3 ≠ 0x47 ∨ rCplc 4 ≠ 0x90 then
      false
    else
      true

/-- `native_eseSendCommand`, whose body is commented out. -/
def nativeEseSendCommand (_ : NativeClient) (_ : Option JByteArray) : Option (List UInt8) := none

/-- `native_eseSendCommandEx`: its value and what the manager service has done. The buffer of 100 zeros on the stack takes the bytes of
the array; `none` is `NULL`. -/
def nativeEseSendCommandEx (c : NativeClient) (cmdId : Int32) (bufferArray : Option JByteArray) : Int × List ManagerEvent :=
  let buffer := c.stack.write 0 (List.replicate 100 0)
  match bufferArray with
  | none => c.eseSendCommandEx cmdId.toUInt32 buffer 0
  | some array =>
    let bufferLen := UInt32.ofNat array.bytes.length
    if 100 < bufferLen then
      (-1, [])
    else
      c.eseSendCommandEx cmdId.toUInt32 (buffer.write 0 array.bytes) bufferLen

/-- `native_eseGetBindingStatus`. -/
def nativeEseGetBindingStatus (c : NativeClient) : PowerReturned := c.geteSEBindingStatus

/-- A process that has the proxies of both daemons: an implementation of the power manager behind its stub, and a manager service
behind its own. All parcels get their memory from the same allocator. -/
def connected (mem : Allocator) (impl : PowerMethod → Int32) (powerBase : BBinder Binder) (service : ManagerService)
    (managerBase : BBinder Empty) (cb : Binder) (stack : Mem) (newByteArray : UInt32 → Bool) : NativeClient where
  mem := mem
  power := some (powerOnTransact false mem impl powerBase)
  manager := some (managerOnTransact mem service managerBase)
  cb := cb
  stack := stack
  newByteArray := newByteArray

end EseManager
