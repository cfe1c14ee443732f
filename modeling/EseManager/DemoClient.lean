import EseManager.TeeClient
import EseManager.Lib.Machine

/-!
# The demonstration client

`teeclientdemo` opens one session with the trusted application and then goes through its options: `-c` is `invoke_transmit`, which
toggles the activation of an applet through a logical channel; `-t` invokes the self test; `-i` takes an APDU in hexadecimal digits
and sends it with `invoke_hal_transmit`. All of them use one `TEEC_Operation` with two shared memories of 256 bytes.

What the trusted application answers is arbitrary. `getopt` is not part of the repository: the options are the list that it returns.
The indices of `hexchar_to_byte` are numbers here: an argument of a process is shorter than an `int` can count. What the functions
print is left out.

The response to a command is copied into an array of 100 bytes, whatever its size. A size from 2^31 on is negative as an `int`, and asks
`memcpy` for more memory than a process has; then the process dies. So it may when the copy leaves the array with a smaller size; then
the answer says whether it is outlived. A process that outlives a copy goes on as if nothing but the array had been written, and so does
one whose `-i` has stored more bytes than `hal_cmd` and the input memory have.
-/

namespace EseManager

/-- `OPEN_LOGICAL_CHANNEL`. -/
def openLogicalChannel : UInt32 := 0x0002

/-- `CHANNEL_TRANSMIT`. -/
def channelTransmit : UInt32 := 0x0003

/-- `CLOSE_CHANNEL`. -/
def closeChannel : UInt32 := 0x0004

/-- `ESESPI_TEST`. -/
def esespiTest : UInt32 := 0x0009

/-- `BIG_INT_LENGTH`, the size of both shared memories. -/
def bigIntLength : UInt32 := 256

def crsAid : List UInt8 := [0xA0, 0x00, 0x00, 0x01, 0x51, 0x43, 0x52, 0x53, 0x00]

def setStatusDeactive : List UInt8 :=
  [0x80, 0xF0, 0x01, 0x00, 0x0B, 0x4F, 0x09, 0xA0, 0x00, 0x00, 0x01, 0x51, 0x41, 0x43, 0x4C, 0x00, 0x00]

def setStatusActive : List UInt8 :=
  [0x80, 0xF0, 0x01, 0x01, 0x0B, 0x4F, 0x09, 0xA0, 0x00, 0x00, 0x01, 0x51, 0x41, 0x43, 0x4C, 0x00, 0x00]

def getStatusDeactive : List UInt8 :=
  [0x80, 0xF2, 0x40, 0x00, 0x0F, 0x4F, 0x09, 0xA0, 0x00, 0x00, 0x01, 0x51, 0x41, 0x43, 0x4C, 0x00, 0x5C, 0x02, 0x9F, 0x70, 0x00]

/-! ## The operation -/

/-- The `TEEC_Operation` of the client: the sizes in `params[0]` and `params[1]`, and the two shared memories behind them. -/
structure Operation where
  inSize : UInt32
  outSize : UInt32
  inBuffer : Mem
  outBuffer : Mem

/-- What the trusted application does with one command: its result, the size that it leaves in `params[1].memref.size`, and the
output memory. `outlived` is whether the process outlives a copy of the response that leaves `resp`. -/
structure TaAnswer where
  ret : TeecResult
  outSize : UInt32
  outBuffer : Mem
  outlived : Bool

/-- The size of `resp`. -/
def respSize : Nat := 100

/-- The process goes on after the copy of the response into `resp`. -/
def TaAnswer.Copied (a : TaAnswer) : Prop := a.outSize.toNat ≤ respSize ∨ a.outSize.toNat < 2 ^ 31 ∧ a.outlived = true

instance (a : TaAnswer) : Decidable a.Copied := inferInstanceAs (Decidable (_ ∨ _ ∧ _))

/-- A function that talks to the trusted application, on its way: the operation, its array `resp`, and what it has done. -/
structure Transmission where
  operation : Operation
  resp : Mem
  events : List TeeEvent

/-- `uint8_t resp[100]={0}`. -/
def Transmission.start (op : Operation) : Transmission := ⟨op, fun _ => 0, []⟩

/-- Copy a command into the input memory, and set its size. -/
def Transmission.putCommand (x : Transmission) (cmd : List UInt8) : Transmission :=
  { x with
    operation := { x.operation with inSize := .ofNat cmd.length, inBuffer := x.operation.inBuffer.write 0 cmd }
    events := x.events ++ [.storeShm .input 0 cmd.length] }

/-- `operation->params[1].memref.size=BIG_INT_LENGTH`. -/
def Transmission.resetOutSize (x : Transmission) : Transmission :=
  { x with operation := { x.operation with outSize := bigIntLength } }

/-- What an operation offers the trusted application to read. -/
def Operation.input (op : Operation) : List UInt8 := op.inBuffer.read 0 op.inSize.toNat

/-- `TEEC_InvokeCommand`. -/
def Transmission.invoke (x : Transmission) (commandId : UInt32) (a : TaAnswer) : Transmission :=
  { x with
    operation := { x.operation with outSize := a.outSize, outBuffer := a.outBuffer }
    events := x.events ++ [.invokeCommand commandId x.operation.input x.operation.outSize a.ret] }

/-- Copy the response into `resp`. -/
def Transmission.takeResponse (x : Transmission) : Transmission :=
  let respLen := x.operation.outSize.toNat
  let response := x.operation.outBuffer.read 0 respLen
  { x with
    resp := x.resp.write 0 response
    events := x.events ++ [.loadShm .output 0 respLen, .storeRsp 0 response] }

/-! ## invoke_transmit -/

/-- The answers to the five commands of `invoke_transmit`; those it does not get to are not used. -/
structure CrsAnswers where
  openChannel : TaAnswer
  getStatus : TaAnswer
  setStatus : TaAnswer
  getStatusAgain : TaAnswer
  closeChannel : TaAnswer

/-- `invoke_transmit`: its value (`none` when the process dies in it) and what it leaves. -/
def invokeTransmit (op : Operation) (a : CrsAnswers) : Option Int32 × Transmission :=
  let x := ((Transmission.start op).putCommand crsAid).invoke openLogicalChannel a.openChannel
  if a.openChannel.ret ≠ teecSuccess then
    (some a.openChannel.ret.toInt32, x)
  else if ¬a.openChannel.Copied then
    (none, x.takeResponse)
  else
    let x := (x.takeResponse.resetOutSize.putCommand getStatusDeactive).invoke channelTransmit a.getStatus
    if a.getStatus.ret ≠ teecSuccess then
      (some a.getStatus.ret.toInt32, x)
    else if ¬a.getStatus.Copied then
      (none, x.takeResponse)
    else
      let x := x.takeResponse
      let setStatus := if x.resp 6 ≠ 0x00 then setStatusDeactive else setStatusActive
      let x := (x.resetOutSize.putCommand setStatus).invoke channelTransmit a.setStatus
      if a.setStatus.ret ≠ teecSuccess then
        (some a.setStatus.ret.toInt32, x)
      else if ¬a.setStatus.Copied then
        (none, x.takeResponse)
      else
        let x := (x.takeResponse.resetOutSize.putCommand getStatusDeactive).invoke channelTransmit a.getStatusAgain
        if a.getStatusAgain.ret ≠ teecSuccess then
          (some a.getStatusAgain.ret.toInt32, x)
        else if ¬a.getStatusAgain.Copied then
          (none, x.takeResponse)
        else
          let x := x.takeResponse.resetOutSize.invoke closeChannel a.closeChannel
          (some a.closeChannel.ret.toInt32, x)

/-! ## hexchar_to_byte -/

/-- What the client does while it processes its options: the reads of an argument, the stores into `hal_cmd`, and what happens
between it and the TEE. -/
inductive DemoEvent where
  | readArg (pos : Nat)
  | storeByte (off : Nat) (byte : UInt8)
  | tee (e : TeeEvent)
  deriving DecidableEq, Repr

/-- `char_to_byte`. The characters from 0x80 on are not digits, whether `char` is signed or not. -/
def charToByte (charIn : UInt8) : UInt8 :=
  if '0'.toUInt8 ≤ charIn ∧ charIn ≤ '9'.toUInt8 then charIn - '0'.toUInt8
  else if 'a'.toUInt8 ≤ charIn ∧ charIn ≤ 'f'.toUInt8 then charIn - 'a'.toUInt8 + 10
  else if 'A'.toUInt8 ≤ charIn ∧ charIn ≤ 'F'.toUInt8 then charIn - 'A'.toUInt8 + 10
  else 0xFF -- `ERROR`, as a `uint8_t`

/-- `(char_to_byte(hexstring[i])<<4)|char_to_byte(hexstring[i+1])`, cut off to a `uint8_t`. -/
def hexPair (c d : UInt8) : UInt8 := .ofNat (((charToByte c).toNat <<< 4) ||| (charToByte d).toNat)

/-- What `hexchar_to_byte` gives: `*byte_len` (`none` when it has run out of the memory of the process), the bytes behind `byte`, and
its accesses. -/
structure HexReturned where
  byteLen : Option Nat
  byte : Mem
  events : List DemoEvent

/-- The loop of `hexchar_to_byte`, from `hexstring[i]` and `byte[j]` on. The list is the memory from there on, as far as the process
has any. -/
def hexLoop (i j : Nat) (byte : Mem) : List UInt8 → HexReturned
  | [] => ⟨none, byte, [.readArg i]⟩
  | [c] =>
    if c = 0 then
      ⟨some j, byte, [.readArg i]⟩
    else
      ⟨none, byte, [.readArg i, .readArg i, .readArg (i + 1)]⟩
  | c :: d :: hexstring =>
    if c = 0 then
      ⟨some j, byte, [.readArg i]⟩
    else
      let r := hexLoop (i + 2) (j + 1) (byte.write j [hexPair c d]) hexstring
      { r with events := [.readArg i, .readArg i, .readArg (i + 1), .storeByte j (hexPair c d)] ++ r.events }

/-- `hexchar_to_byte`. -/
def hexcharToByte (hexstring : List UInt8) (byte : Mem) : HexReturned := hexLoop 0 0 byte hexstring

/-- `invoke_hal_transmit`: its value (`none` when the process dies in it) and what it leaves. -/
def invokeHalTransmit (op : Operation) (halCmd : Mem) (halCmdLen : Nat) (a : TaAnswer) : Option Int32 × Transmission :=
  let x := ((Transmission.start op).resetOutSize.putCommand (halCmd.read 0 halCmdLen)).invoke halTransmit a
  if a.ret ≠ teecSuccess then
    (some a.ret.toInt32, x)
  else if ¬a.Copied then
    (none, x.takeResponse)
  else
    (some a.ret.toInt32, x.takeResponse)

/-! ## teeclientdemo -/

/-- An option, as `getopt` gives it, with the answers of the trusted application to the commands it leads to. The argument of `-i` is
the memory from `optarg` on. `unknown` is an option that is not one of the three. -/
inductive DemoOption where
  | c (a : CrsAnswers)
  | t (a : TaAnswer)
  | i (optarg : List UInt8) (a : TaAnswer)
  | unknown

/-- The client between two options. -/
structure DemoState where
  operation : Operation
  halCmd : Mem

/-- One option: the next state, `none` when the process has died, and what is done. -/
def DemoState.serve (s : DemoState) : DemoOption → Option DemoState × List DemoEvent
  | .c a =>
    let sent := invokeTransmit s.operation a
    (sent.1.map fun _ => { s with operation := sent.2.operation }, sent.2.events.map .tee)
  | .t a =>
    let x := (Transmission.start s.operation).invoke esespiTest a
    (some { s with operation := x.operation }, x.events.map .tee)
  | .i optarg a =>
    let h := hexcharToByte optarg s.halCmd
    match h.byteLen with
    | none => (none, h.events)
    | some halCmdLen =>
      let sent := invokeHalTransmit s.operation h.byte halCmdLen a
      (sent.1.map fun _ => ⟨sent.2.operation, h.byte⟩, h.events ++ sent.2.events.map .tee)
  | .unknown => (some s, [])

/-- The client as it goes through its options. After it has died, nothing is done. -/
def demo : Machine (Option DemoState) DemoOption (List DemoEvent) where
  next s o := s.bind fun s => (s.serve o).1
  out s o := (s.map fun s => (s.serve o).2).getD []

/-- The first byte of the input memory is 0, the others are 0xff; the output memory is all zeros. -/
def initialOperation : Operation :=
  { inSize := bigIntLength
    outSize := bigIntLength
    inBuffer := Mem.write (fun _ => 0) 0 (0x00 :: List.replicate 255 0xff)
    outBuffer := fun _ => 0 }

/-- `teeclientdemo` up to its options, with what is in `hal_cmd`: without a context or a session it does not get there. It does not look
at the results of the allocations; then the `memset` of a null pointer ends the process. -/
def demoStart (t : TeeAnswers) (halCmd : Mem) : Option DemoState × List TeeEvent :=
  let (ret, opened) := teeInit t
  if ret = initContextFailed then
    (none, opened)
  else if ret = openSessionFailed then
    (none, opened ++ cleanup2)
  else
    let events := opened ++ [.allocateSharedMemory .input bigIntLength t.allocateInput]
    if t.allocateInput ≠ teecSuccess then
      (none, events)
    else
      let events := events ++
        [.storeShm .input 0 256, .storeShm .input 0 1, .allocateSharedMemory .output bigIntLength t.allocateOutput]
      if t.allocateOutput ≠ teecSuccess then
        (none, events)
      else
        (some ⟨initialOperation, halCmd⟩, events ++ [.storeShm .output 0 256])

/-- `cleanup4` of `teeclientdemo`, and the labels that it falls through to. -/
def demoCleanup4 : List TeeEvent := .releaseSharedMemory .input :: .releaseSharedMemory .output :: cleanup3

/-- `teeclientdemo`: all that it does, from `init` to the last cleanup label. -/
def teeclientdemo (t : TeeAnswers) (halCmd : Mem) (options : List DemoOption) : List DemoEvent :=
  let (start, started) := demoStart t halCmd
  let processed := (demo.outs start options).flatten
  let cleaned := if (demo.run start options).isSome then demoCleanup4 else []
  started.map .tee ++ processed ++ cleaned.map .tee

end EseManager
