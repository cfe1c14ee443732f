import EseManager.Lib.Mem

/-!
# Frames over SPI

`80t-test-ap.cpp` can talk to the eSE without the TEE: a command is a frame that is written to a device node, and the response a frame that
is looked for among the bytes that can be read. `main` does not go this way any more.

The node is a parameter: anything that answers `read` and `write`. What is printed is left out.
-/

namespace EseManager

/-- A device node: the bytes that `read` gives (`none` when it fails), and what `write` returns (`none` when it fails). -/
structure Port (σ : Type) where
  read : σ → Nat → Option (List UInt8) × σ
  write : σ → List UInt8 → Option Nat × σ

/-- `ESE_SOF`. -/
def eseSof : UInt8 := 0xA5

/-- `-ETIME`. -/
def negEtime : Int := -62

/-! ## The commands -/

def resetCmd : List UInt8 := [0x5A, 0xC4, 0x00, 0xC4]
def selectIsd : List UInt8 := [0x5A, 0x00, 0x0E, 0x01, 0xA4, 0x04, 0x00, 0x08, 0xA0, 0x00, 0x00, 0x01, 0x51, 0x00, 0x00, 0x00, 0x00, 0x57]
def cplcCmdLogic1 : List UInt8 := [0x5A, 0x00, 0x05, 0x81, 0xCA, 0x9F, 0x7F, 0x00, 0xAE]
def clsoeLogic1 : List UInt8 := [0x5A, 0x00, 0x04, 0x01, 0x70, 0x80, 0x01, 0xF4]
def selectIsdLogic0 : List UInt8 :=
  [0x5A, 0x40, 0x0E, 0x01, 0xA4, 0x04, 0x00, 0x08, 0xA0, 0x00, 0x00, 0x01, 0x51, 0x00, 0x00, 0x00, 0x00, 0x16]
def cplcCmdLogic0 : List UInt8 := [0x5A, 0x00, 0x05, 0x80, 0xCA, 0x9F, 0x7F, 0x00, 0xAF]
def cplcCmd : List UInt8 := [0x5A, 0x00, 0x05, 0x80, 0xCA, 0x9F, 0x7F, 0x00, 0xAF]

namespace Port

variable {σ : Type} (P : Port σ)

/-! ## send_ese_data_by_spi -/

/-- `send_ese_data_by_spi`: a `write` that fails is tried once more. -/
def sendEseDataBySpi (s : σ) (data : List UInt8) : Int × σ :=
  match P.write s data with
  | (some ret, s) => (ret, s)
  | (none, s) =>
    match P.write s data with
    | (some ret, s) => (ret, s)
    | (none, s) => (-1, s)

/-! ## ese_read_data -/

/-- The local variables of `ese_read_data`: `recv_data` and the accesses to it, each with its offset and length, and the node. -/
structure Reading (σ : Type) where
  recvData : Mem
  accesses : List (Nat × Nat)
  port : σ

/-- `read(fp, &recv_data[off], len)`. -/
def Reading.fill (x : Reading σ) (off len : Nat) : Reading σ :=
  let (got, s) := P.read x.port len
  ⟨x.recvData.write off ((got.getD []).take len), x.accesses ++ [(off, len)], s⟩

/-- The loop that looks for the start of a frame, with so many rounds left behind this one. -/
def sofLoop (x : Reading σ) : Nat → Reading σ
  | 0 => Reading.fill P x 0 1
  | n + 1 =>
    let x := Reading.fill P x 0 1
    if x.recvData 0 ≠ eseSof then sofLoop x n else x

/-- What `ese_read_data` returns, and what is left of its local variables. -/
structure EseRead (σ : Type) where
  ret : Int
  left : Reading σ

/-- `ese_read_data`. At its end it prints the frame byte by byte. -/
def eseReadData (s : σ) : EseRead σ :=
  let x := P.sofLoop ⟨fun _ => 0, [(0, 256)], s⟩ 999
  if x.recvData 0 ≠ eseSof then
    ⟨negEtime, x⟩
  else
    let x := Reading.fill P x 1 2
    let len := (x.recvData 2).toNat + 1
    let x := Reading.fill P x 3 len
    let totalCount := 1 + 2 + len
    ⟨totalCount, { x with accesses := x.accesses ++ (List.range totalCount).map fun i => (i, 1) }⟩

/-! ## The tests -/

/-- A command is sent, and its response read. -/
def exchanged (s : σ) (cmd : List UInt8) : EseRead σ := P.eseReadData (P.sendEseDataBySpi s cmd).2

/-- Commands one after the other, whatever becomes of each. -/
def exchanges (s : σ) : List (List UInt8) → List (EseRead σ)
  | [] => []
  | cmd :: cmds =>
    let r := P.exchanged s cmd
    r :: exchanges r.left.port cmds

/-- The loop of `ese_common_cmd_test`, with so many rounds left behind this one. -/
def retryLoop (s : σ) (pcmd : List UInt8) : Nat → EseRead σ
  | 0 => P.exchanged s pcmd
  | n + 1 =>
    let r := P.exchanged s pcmd
    if r.ret ≤ 4 then retryLoop r.left.port pcmd n else r

/-- `ese_common_cmd_test`: a command is sent again while there is no response to it, or one of length 0. -/
def eseCommonCmdTest (s : σ) (pcmd : List UInt8) : EseRead σ := P.retryLoop s pcmd 10

/-- `cplc_test_80t_logicCh1`. -/
def cplcTest80tLogicCh1 (s : σ) : List (EseRead σ) := P.exchanges s [resetCmd, selectIsd, cplcCmdLogic1, clsoeLogic1]

/-- `cplc_test_80t_logicCh0`. -/
def cplcTest80tLogicCh0 (s : σ) : List (EseRead σ) := P.exchanges s [resetCmd, selectIsdLogic0, cplcCmdLogic0]

/-- `cplc_test_80t_basiCh0`. -/
def cplcTest80tBasiCh0 (s : σ) : List (EseRead σ) := P.exchanges s [resetCmd, cplcCmd]

end Port

end EseManager
