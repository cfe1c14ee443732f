import EseManager.DemoClient
import EseManager.Lib.Hex

/-!
# What the demonstration client prints

After every command that succeeds, and whose response it has got over, `invoke_transmit` and `invoke_hal_transmit` print the command
and the response with `print_packet`: two upper-case digits and a blank for each byte, put together in a buffer on the stack. `printing`
is the client as a machine that gives out these lines. Its other lines, which say that a command has succeeded, are left out. As in the
client, a process that outlives a copy beyond an array goes on as if nothing else had been written; it outlives the printing of what is
behind the array, too.
-/

namespace EseManager

/-- The characters of a literal. -/
def chars (s : String) : List UInt8 := s.toList.map Char.toUInt8

/-- The accesses of `print_packet` to its packet and to its buffer. -/
inductive PrintAccess where
  | readData (pos : Nat)
  | storeBuffer (off len : Nat)
  deriving DecidableEq, Repr

/-- What the loop of `print_packet` leaves in `print_buffer`, and its accesses. -/
structure PrintBuffer where
  memory : Mem
  accesses : List PrintAccess

/-- What `snprintf` stores for `"%02X "`, with its NUL. -/
def snprintfByte (byte : UInt8) : List UInt8 :=
  [Hex.upperDigit (byte.toNat / 16), Hex.upperDigit (byte.toNat % 16), ' '.toUInt8, 0]

/-- The loop of `print_packet`, from `i` on, with so many bytes to go. -/
def printLoop (pData : Mem) (i : Nat) (printBuffer : Mem) : Nat → PrintBuffer
  | 0 => ⟨printBuffer, []⟩
  | n + 1 =>
    let r := printLoop pData (i + 1) (printBuffer.write (i * 3) (snprintfByte (pData i))) n
    { r with accesses := .readData i :: .storeBuffer (i * 3) 4 :: r.accesses }

/-- A call of `print_packet`: the size of its buffer, what it has done with it, and the line that it prints (`none` when there is no NUL
in the buffer). -/
structure PrintedPacket where
  size : Nat
  accesses : List PrintAccess
  line : Option (List UInt8)

/-- `"%3d"`. -/
def decimal3 (n : Nat) : List UInt8 := ((Nat.toDigits 10 n).map Char.toUInt8).leftpad 3 ' '.toUInt8

/-- `print_packet`, with what was on the stack before it. -/
def printPacket (stack : Mem) (pString : List UInt8) (pData : Mem) (len : UInt16) : PrintedPacket :=
  let size := len.toNat * 3 + 1
  let r := printLoop pData 0 (stack.write 0 (List.replicate size 0)) len.toNat
  let inBuffer := r.memory.read 0 size
  let text := if 0 ∈ inBuffer then some (inBuffer.takeWhile (· ≠ 0)) else none
  { size := size
    accesses := .storeBuffer 0 size :: r.accesses
    line :=
      if pString.take 4 = chars "SEND" then
        text.map fun t => chars "SEND:len = " ++ decimal3 len.toNat ++ chars " > " ++ t ++ chars " \n"
      else if pString.take 4 = chars "RECV" then
        text.map fun t => chars "RECV:len = " ++ decimal3 len.toNat ++ chars " < " ++ t ++ chars " \n"
      else
        some [] }

/-- The two lines after a command that has succeeded; `resp` holds the response. -/
def printExchange (stack : Mem) (cmd : Mem) (cmdLen : Nat) (resp : Mem) (respLen : UInt32) : List PrintedPacket :=
  [printPacket stack (chars "SEND") cmd (.ofNat cmdLen), printPacket stack (chars "RECV") resp respLen.toUInt16]

/-- What `invoke_hal_transmit` prints. -/
def halTransmitLines (stack : Mem) (op : Operation) (halCmd : Mem) (halCmdLen : Nat) (a : TaAnswer) : List PrintedPacket :=
  if a.ret ≠ teecSuccess then []
  else if ¬a.Copied then []
  else printExchange stack halCmd halCmdLen (invokeHalTransmit op halCmd halCmdLen a).2.resp a.outSize

/-- `resp` after the response to another command was copied into it. -/
def respAfter (resp : Mem) (a : TaAnswer) : Mem := resp.write 0 (a.outBuffer.read 0 a.outSize.toNat)

/-- The bytes of a command array. -/
def commandMem (cmd : List UInt8) : Mem := Mem.write (fun _ => 0) 0 cmd

/-- The two lines after a command of `invoke_transmit`. -/
def printCommand (stack : Mem) (cmd : List UInt8) (resp : Mem) (a : TaAnswer) : List PrintedPacket :=
  printExchange stack (commandMem cmd) cmd.length resp a.outSize

/-- What `invoke_transmit` prints. -/
def transmitLines (stack : Mem) (a : CrsAnswers) : List PrintedPacket :=
  if a.openChannel.ret ≠ teecSuccess then []
  else if ¬a.openChannel.Copied then []
  else
    let resp := respAfter (fun _ => 0) a.openChannel
    printCommand stack crsAid resp a.openChannel ++
      if a.getStatus.ret ≠ teecSuccess then []
      else if ¬a.getStatus.Copied then []
      else
        let resp := respAfter resp a.getStatus
        printCommand stack getStatusDeactive resp a.getStatus ++
          let setStatus := if resp 6 ≠ 0x00 then setStatusDeactive else setStatusActive
          if a.setStatus.ret ≠ teecSuccess then []
          else if ¬a.setStatus.Copied then []
          else
            let resp := respAfter resp a.setStatus
            printCommand stack setStatus resp a.setStatus ++
              if a.getStatusAgain.ret ≠ teecSuccess then []
              else if ¬a.getStatusAgain.Copied then []
              else printCommand stack getStatusDeactive (respAfter resp a.getStatusAgain) a.getStatusAgain

/-- The lines of an option. -/
def DemoState.lines (stack : Mem) (s : DemoState) : DemoOption → List PrintedPacket
  | .c a => transmitLines stack a
  | .t _ => []
  | .i optarg a =>
    let h := hexcharToByte optarg s.halCmd
    match h.byteLen with
    | none => []
    | some halCmdLen => halTransmitLines stack s.operation h.byte halCmdLen a
  | .unknown => []

/-- The client as it goes through its options, with the lines it prints. -/
def printing (stack : Mem) : Machine (Option DemoState) DemoOption (List PrintedPacket) where
  next := demo.next
  out s o := (s.map fun s => s.lines stack o).getD []

end EseManager
