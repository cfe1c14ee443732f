import EseManager.Basic
import EseManager.Lib.Mem

/-!
# The TEE client

`ca_sendEseCommand` and `ca_getEseCplc`: one exchange each with the trusted application that talks to the eSE. Both open a
context and a session, allocate a shared memory for the input and one for the output, invoke the command, copy the response
out, and release everything through the same ladder of cleanup labels. `exchange` is that common body.

The TEE library is not part of the repository. What it returns and what the trusted application leaves in the output memory are
the `TeeAnswers` of an exchange, all arbitrary.

No length is compared with a buffer before a copy. A copy that leaves its buffers is recorded with its length like any other, and the
function goes on as if it had been outlived and had destroyed nothing else; where the death of the process matters, its users say so.
-/

namespace EseManager

/-- `TEEC_Result`, an unsigned 32-bit code. -/
abbrev TeecResult := UInt32

/-- `TEEC_SUCCESS`. -/
def teecSuccess : TeecResult := 0

/-- `TEEC_ERROR_GENERIC`, the first of the codes of the class `0xFFFFxxxx`. -/
def teecErrorGeneric : TeecResult := 0xFFFF0000

/-- `INIT_CONTEXT_FAILED`. -/
def initContextFailed : UInt32 := 100

/-- `OPEN_SESSION_FAILED`. -/
def openSessionFailed : UInt32 := 101

/-- `HAL_TRANSMIT`, the command of the trusted application for one APDU. -/
def halTransmit : UInt32 := 0x0008

/-- `getCplc_cmd`, the APDU GET CPLC. -/
def getCplcCmd : List UInt8 := [0x80, 0xca, 0x9f, 0x7f, 0x00]

/-- The results of the five calls of an exchange; the size that the completed command leaves in `params[1].memref.size`; and the
bytes from the start of the output memory on once it has completed. -/
structure TeeAnswers where
  initializeContext : TeecResult
  openSession : TeecResult
  allocateInput : TeecResult
  allocateOutput : TeecResult
  invokeCommand : TeecResult
  outSize : UInt32
  outBuffer : Mem

/-- The two shared memories of an exchange. -/
inductive Shm where
  | input
  | output
  deriving DecidableEq, Repr

/-- What an exchange does, in order: the calls to the TEE library with their results, and the accesses to the shared memories
and to the buffers of the caller, each with its offset and length in bytes. -/
inductive TeeEvent where
  | initializeContext (ret : TeecResult)
  | openSession (ret : TeecResult)
  | allocateSharedMemory (shm : Shm) (size : UInt32) (ret : TeecResult)
  | invokeCommand (commandId : UInt32) (input : List UInt8) (outSize : UInt32) (ret : TeecResult)
  | releaseSharedMemory (shm : Shm)
  | closeSession
  | finalizeContext
  | readCmd (off len : Nat)
  | storeShm (shm : Shm) (off len : Nat)
  | loadShm (shm : Shm) (off len : Nat)
  | storeRsp (off : Nat) (bytes : List UInt8)
  deriving DecidableEq, Repr

/-! ## The cleanup labels, each falling through to the next -/

def cleanup2 : List TeeEvent := [.finalizeContext]
def cleanup3 : List TeeEvent := .closeSession :: cleanup2
def cleanup4 : List TeeEvent := .releaseSharedMemory .input :: cleanup3
def cleanup5 : List TeeEvent := .releaseSharedMemory .output :: cleanup4

/-- `init`: open a context and a session. -/
def teeInit (t : TeeAnswers) : UInt32 × List TeeEvent :=
  if t.initializeContext ≠ teecSuccess then
    (initContextFailed, [.initializeContext t.initializeContext])
  else if t.openSession ≠ teecSuccess then
    (openSessionFailed, [.initializeContext t.initializeContext, .openSession t.openSession])
  else
    (0, [.initializeContext t.initializeContext, .openSession t.openSession])

/-- The body both functions share, from `init` to the last cleanup label: the value of `result` and the events. `sized` and
`loaded` are the reads of the command for its size and for its bytes `input`; `copied` copies the response out. -/
def exchange (t : TeeAnswers) (sized : List TeeEvent) (inputSize : UInt32) (loaded : List TeeEvent) (input : List UInt8)
    (outputSize : UInt32) (copied : List TeeEvent) : TeecResult × List TeeEvent :=
  let (ret, opened) := teeInit t
  if ret = initContextFailed then
    (initContextFailed, opened)
  else if ret = openSessionFailed then
    (openSessionFailed, opened ++ cleanup2)
  else
    let events := opened ++ sized ++ [.allocateSharedMemory .input inputSize t.allocateInput]
    if t.allocateInput ≠ teecSuccess then
      (t.allocateInput, events ++ cleanup4)
    else
      let events := events ++ loaded ++
        [.storeShm .input 0 inputSize.toNat, .allocateSharedMemory .output outputSize t.allocateOutput]
      if t.allocateOutput ≠ teecSuccess then
        (t.allocateOutput, events ++ cleanup5)
      else
        let events := events ++
          [.storeShm .output 0 outputSize.toNat, .invokeCommand halTransmit input outputSize t.invokeCommand]
        if t.invokeCommand ≠ teecSuccess then
          (t.invokeCommand, events ++ cleanup5)
        else
          (t.invokeCommand, events ++ copied ++ cleanup5)

/-- `return (0 - result)`: the unsigned difference, read as an `int32_t`. -/
def caReturn (result : TeecResult) : Int32 := (0 - result).toInt32

/-- What a function of the client gives: its result, the bytes behind the caller's output pointer, and the events. -/
structure CaOutcome where
  ret : Int32
  buf : Mem
  events : List TeeEvent

/-- `ca_sendEseCommand`. The command is a `send_cmd` (a length and up to 200 bytes), the response a `send_cmd_rsp` of the same
shape; `none` is a null pointer. -/
def caSendEseCommand (t : TeeAnswers) (cmd : Option Mem) (cmdLen : UInt32) (rsp : Option Mem) (rspLen : UInt32) :
    CaOutcome :=
  match cmd, rsp with
  | some cmd, some rsp =>
    if cmdLen = 0 ∨ rspLen = 0 then
      ⟨-1, rsp, []⟩
    else
      let cmdSize := cmd.readU32 0
      let input := cmd.read 4 cmdSize.toNat
      let response := t.outBuffer.read 0 t.outSize.toNat
      let (result, events) := exchange t [.readCmd 0 4] cmdSize [.readCmd 4 cmdSize.toNat] input rspLen
        [.storeRsp 0 (Mem.bytesOfU32 t.outSize), .loadShm .output 0 t.outSize.toNat, .storeRsp 4 response]
      let copied := if result = teecSuccess then (rsp.writeU32 0 t.outSize).write 4 response else rsp
      ⟨caReturn result, copied, events⟩
  | _, rsp => ⟨-1, rsp.getD (fun _ => 0), []⟩

/-- `-EINVAL`. -/
def negEinval : Int32 := -22

/-- `ca_getEseCplc`: the outcome and `*cplc_len` afterwards. -/
def caGetEseCplc (t : TeeAnswers) (cplcBuf : Option Mem) (cplcLen : UInt32) : CaOutcome × UInt32 :=
  match cplcBuf with
  | none => (⟨negEinval, fun _ => 0, []⟩, cplcLen)
  | some buf =>
    if cplcLen = 0 then
      (⟨negEinval, buf, []⟩, cplcLen)
    else
      let response := t.outBuffer.read 0 t.outSize.toNat
      let (result, events) := exchange t [] 5 [] getCplcCmd cplcLen
        [.loadShm .output 0 t.outSize.toNat, .storeRsp 0 response]
      if result = teecSuccess then
        (⟨caReturn result, buf.write 0 response, events⟩, t.outSize)
      else
        (⟨caReturn result, buf, events⟩, cplcLen)

end EseManager
