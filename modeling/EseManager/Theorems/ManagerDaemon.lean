import EseManager.Lemmas.Tee
import EseManager.ManagerDaemon
import EseManager.Theorems.Requests

/-!
# Runs of the manager daemon

`stubbed_exit` lists what the stub can make of a transaction. From it, over runs: what reaches the trusted application and the
fingerprint client comes from callers that may send it, and the daemon keeps its number until a caller asks for a reply that gets no room,
or a copy goes past its memory.
-/

namespace EseManager

open Ipc Parcel

/-! ## The calls of the service -/

/-- What the service gives for a command and what it has the TEE client do for it go together: both turn on one uid test, and the status
is the result of the function whose events these are. -/
theorem sendCommand_teeEvents (mem : Allocator) (t : TeeAnswers) (uid : Int) (cmd rsp : Ptr) (cmdLen rspLen : UInt32) :
    let o := caSendEseCommand t (mem.at cmd) cmdLen (mem.at rsp) rspLen
    let service := serviceSendCommand t uid (mem.at cmd) cmdLen (mem.at rsp) rspLen
    let events := (ManagerEvent.sendCommand cmd cmdLen rsp rspLen).teeEvents mem t uid
    (sendCommandAllowed uid = false ∧ service.status = permissionDenied ∧ events = []) ∨
      (sendCommandAllowed uid = true ∧ service = ⟨caStatus o.ret, o.buf⟩ ∧ events = o.events) := by
  unfold serviceSendCommand ManagerEvent.teeEvents
  cases huid : sendCommandAllowed uid with
  | false => exact Or.inl ⟨rfl, rfl, rfl⟩
  | true => exact Or.inr ⟨rfl, rfl, rfl⟩

/-- What the fingerprint client returns for a call. -/
def FpClient.answer (fp : FpClient) (mem : Allocator) : FpCall → Int32
  | .geteSEBindingStatus => fp.geteSEBindingStatus
  | .startBinding => fp.startBinding
  | .clearBindingInfo verifyData len => fp.clearBindingInfo (mem.at verifyData) len

/-- What the service returns for a binding command is what the fingerprint client returns for the one call that is made, by a caller
that may have it made; or there is no call, and the service refuses the caller or the command. -/
theorem sendCommandEx_fpCalls (mem : Allocator) (fp : FpClient) (uid : Int) (cmdId : UInt32) (buffer : Ptr) (len : UInt32) :
    let ret := serviceSendCommandEx fp uid cmdId (mem.at buffer) len
    let calls := (ManagerEvent.sendCommandEx cmdId buffer len).fpCalls uid
    (calls = [] ∧ (ret = Int32.ofInt permissionDenied ∨ ret = Int32.ofInt unknownError)) ∨
      (sendCommandExAllowed uid = true ∧ ∃ call, calls = [call] ∧ ret = fp.answer mem call) := by
  simp only [serviceSendCommandEx, ManagerEvent.fpCalls]
  split_ifs with huid hstatus hstart hclear
  · exact Or.inl ⟨rfl, Or.inl rfl⟩
  · exact Or.inr ⟨Bool.not_eq_false _ ▸ huid, .geteSEBindingStatus, rfl, rfl⟩
  · exact Or.inr ⟨Bool.not_eq_false _ ▸ huid, .startBinding, rfl, rfl⟩
  · exact Or.inr ⟨Bool.not_eq_false _ ▸ huid, .clearBindingInfo buffer len, rfl, rfl⟩
  · exact Or.inl ⟨rfl, Or.inr rfl⟩

/-! ## Transactions -/

/-- A `CMD_SEND_COMMAND` whose response gets no room in the reply: the stub clears a buffer that is not there. -/
def SendCommandNoRoom (mem : Allocator) (data : Parcel Empty) : Prop :=
  let (cmdLen, data) := data.readInt32
  let (rspLen, _) := data.readInt32
  ¬0xFFFFFFFF - cmdLen < rspLen ∧ cmdLen ≠ 0 ∧ rspLen ≠ 0 ∧ ¬HasRoom mem rspLen

/-- A `CMD_GETCPLC` whose CPLC gets no room. -/
def GetEseCplcNoRoom (mem : Allocator) (data : Parcel Empty) : Prop :=
  let (cplcLen, _) := data.readInt32
  cplcLen ≠ 0 ∧ ¬HasRoom mem cplcLen

/-- In the exchange for a command, one of these is past its memory: the length of the command, which is read when a session is open; its
bytes, read when there is memory for them; the response, which the last call leaves. -/
def CommandOverruns (mem : Allocator) (t : TeeAnswers) (uid : Int) (cmd : Ptr) (rspLen : UInt32) : Prop :=
  sendCommandAllowed uid = true ∧ ∃ bytes, cmd = some bytes ∧
    t.initializeContext = teecSuccess ∧ t.openSession = teecSuccess ∧
    (bytes.length < 4 ∨ t.allocateInput = teecSuccess ∧ bytes.length < 4 + embeddedLen (mem.beyond.write 0 bytes) ∨
      t.AllSucceed ∧ (rspLen.toNat < t.outSize.toNat ∨ padded rspLen.toNat < 4 + t.outSize.toNat))

/-- A `CMD_SEND_COMMAND` that is not refused, and whose exchange goes past its memory. -/
def SendCommandOverruns (mem : Allocator) (t : TeeAnswers) (uid : Int) (data : Parcel Empty) : Prop :=
  let (cmdLen, data) := data.readInt32
  let (rspLen, data) := data.readInt32
  ¬0xFFFFFFFF - cmdLen < rspLen ∧ cmdLen ≠ 0 ∧ rspLen ≠ 0 ∧ HasRoom mem rspLen ∧
    CommandOverruns mem t uid (data.readInplace cmdLen.toNat).1 rspLen

/-- A `CMD_GETCPLC` that is not refused, and whose CPLC is longer than was asked for. -/
def GetEseCplcOverruns (mem : Allocator) (t : TeeAnswers) (data : Parcel Empty) : Prop :=
  let (cplcLen, _) := data.readInt32
  cplcLen ≠ 0 ∧ HasRoom mem cplcLen ∧ t.AllSucceed ∧ cplcLen.toNat < t.outSize.toNat

namespace Transaction

/-- The token of the interface is there. -/
def Addressed (x : Transaction) : Prop := x.data.checkInterface ieseManagerService = true

/-- The reply of the transaction gets no room. -/
def NoRoom (mem : Allocator) (x : Transaction) : Prop :=
  x.Addressed ∧ (x.code = cmdSendCommand ∧ SendCommandNoRoom mem x.data ∨ x.code = cmdGetcplc ∧ GetEseCplcNoRoom mem x.data)

/-- A copy for the transaction goes past its memory. -/
def Overruns (mem : Allocator) (x : Transaction) : Prop :=
  x.Addressed ∧ (x.code = cmdSendCommand ∧ SendCommandOverruns mem x.tee x.uid x.data ∨
    x.code = cmdGetcplc ∧ GetEseCplcOverruns mem x.tee x.data)

/-- The process dies of the transaction. -/
def Deadly (mem : Allocator) (x : Transaction) : Prop := x.NoRoom mem ∨ x.Overruns mem ∧ x.overrun = none

/-- The transaction harms nothing. -/
def Harmless (mem : Allocator) (x : Transaction) : Prop := ¬x.NoRoom mem ∧ ¬x.Overruns mem

/-- What a transaction adds to `myParam`. -/
def added (x : Transaction) : Int32 :=
  if x.code = setSomething ∧ x.data.checkInterface ieseManagerService = true then x.data.readInt32.1.toInt32 else 0

variable {mem : Allocator} {x : Transaction}

theorem added_of_code (h : x.code ≠ setSomething) : x.added = 0 := if_neg fun hx => h hx.1

theorem added_of_not_addressed (h : x.data.checkInterface ieseManagerService = false) : x.added = 0 :=
  if_neg fun hx => Bool.false_ne_true (h.symm.trans hx.2)

theorem Harmless.not_deadly (h : x.Harmless mem) : ¬x.Deadly mem := fun hd => hd.elim h.1 fun hover => h.2 hover.1

theorem harmless_of_code (h : x.code ≠ cmdSendCommand ∧ x.code ≠ cmdGetcplc) : x.Harmless mem := by
  refine ⟨?_, ?_⟩
  · rintro ⟨-, ⟨hc, -⟩ | ⟨hc, -⟩⟩
    · exact h.1 hc
    · exact h.2 hc
  · rintro ⟨-, ⟨hc, -⟩ | ⟨hc, -⟩⟩
    · exact h.1 hc
    · exact h.2 hc

theorem harmless_of_not_addressed (h : x.data.checkInterface ieseManagerService = false) : x.Harmless mem := by
  have hn : ¬x.Addressed := fun ha => Bool.false_ne_true (h.symm.trans ha)
  exact ⟨fun hx => hn hx.1, fun hx => hn hx.1⟩

/-- What a transaction with the first of these codes is asked. -/
theorem sendCommand_iff (mem : Allocator) (ht : x.Addressed) (hc : x.code = cmdSendCommand) :
    (x.NoRoom mem ↔ SendCommandNoRoom mem x.data) ∧ (x.Overruns mem ↔ SendCommandOverruns mem x.tee x.uid x.data) := by
  have hne : ¬cmdSendCommand = cmdGetcplc := by decide
  simp [NoRoom, Overruns, ht, hc, hne]

/-- What one with the other code is asked. -/
theorem getEseCplc_iff (mem : Allocator) (ht : x.Addressed) (hc : x.code = cmdGetcplc) :
    (x.NoRoom mem ↔ GetEseCplcNoRoom mem x.data) ∧ (x.Overruns mem ↔ GetEseCplcOverruns mem x.tee x.data) := by
  have hne : ¬cmdGetcplc = cmdSendCommand := by decide
  simp [NoRoom, Overruns, ht, hc, hne]

end Transaction

/-! ## Copies past their memory -/

/-- The exchange for a command goes past its memory in one of the three ways. -/
theorem overruns_sendCommand_iff (mem : Allocator) (t : TeeAnswers) (uid : Int) (cmd : Ptr) {rsp : List UInt8} {cmdLen rspLen : UInt32}
    (hc : cmdLen ≠ 0) (hr : rspLen ≠ 0) (hrsp : rsp.length = padded rspLen.toNat) :
    (ManagerEvent.sendCommand cmd cmdLen (some rsp) rspLen).overruns mem t uid = true ↔ CommandOverruns mem t uid cmd rspLen := by
  have hevents := sendCommand_teeEvents mem t uid cmd (some rsp) cmdLen rspLen
  dsimp only at hevents
  unfold ManagerEvent.overruns CommandOverruns
  rcases hevents with ⟨huid, -, hnil⟩ | ⟨huid, -, hevents⟩
  · simp [hnil, huid]
  rw [hevents, huid]
  cases cmd with
  | none => simp [Allocator.at, caSendEseCommand]
  | some bytes =>
    have hpos : 4 ≤ padded rspLen.toNat := by
      have hne : rspLen.toNat ≠ 0 := fun h => hr (UInt32.toNat_inj.1 h)
      unfold padded
      omega
    obtain ⟨-, hexchange⟩ := caSendEseCommand_exchange t (mem.beyond.write 0 bytes) (mem.beyond.write 0 rsp) hc hr
    simp only [Allocator.at, Option.map_some, hexchange, Option.some.injEq, exists_eq_left', true_and]
    generalize mem.beyond.write 0 bytes = m
    have hexit : ExchangeExit t _ _ _ _ _ _ (sendExchange t m rspLen) := exchange_exit ..
    generalize sendExchange t m rspLen = r at hexit ⊢
    cases hexit with
    | noContext h => simp [ManagerEvent.leaves, TeeEvent.leaves, h]
    | noSession hi h => simp [ManagerEvent.leaves, TeeEvent.leaves, h]
    | noInput hi ho h => simp [ManagerEvent.leaves, TeeEvent.leaves, TeeAnswers.AllSucceed, hi, ho, h]
    | noOutput hi ho ha h => simp [ManagerEvent.leaves, TeeEvent.leaves, TeeAnswers.AllSucceed, hi, ho, ha, h]
    | notInvoked hi ho ha hao h => simp [ManagerEvent.leaves, TeeEvent.leaves, TeeAnswers.AllSucceed, hi, ho, ha, hao, h]
    | completed h =>
      have hs := h
      obtain ⟨hi, ho, ha, -, -⟩ := h
      simp [ManagerEvent.leaves, TeeEvent.leaves, hs, hi, ho, ha, hrsp, Nat.not_lt.2 hpos]

/-- The exchange for the CPLC goes past its memory when the CPLC is longer than that. -/
theorem overruns_getEseCplc_iff (mem : Allocator) (t : TeeAnswers) (uid : Int) {buf : List UInt8} {cplcLen : UInt32} (hl : cplcLen ≠ 0)
    (hbuf : buf.length = padded cplcLen.toNat) :
    (ManagerEvent.getEseCplc (some buf) cplcLen).overruns mem t uid = true ↔ t.AllSucceed ∧ cplcLen.toNat < t.outSize.toNat := by
  have hpad := le_padded cplcLen.toNat
  unfold ManagerEvent.overruns
  obtain ⟨hexchange, -⟩ := caGetEseCplc_exchange t (mem.beyond.write 0 buf) hl
  simp only [ManagerEvent.teeEvents, Allocator.at, Option.map_some, hexchange]
  have hexit : ExchangeExit t _ _ _ _ _ _ (cplcExchange t cplcLen) := exchange_exit ..
  generalize cplcExchange t cplcLen = r at hexit ⊢
  cases hexit with
  | noContext h => simp [ManagerEvent.leaves, TeeEvent.leaves, TeeAnswers.AllSucceed, h]
  | noSession hi h => simp [ManagerEvent.leaves, TeeEvent.leaves, TeeAnswers.AllSucceed, h]
  | noInput hi ho h => simp [ManagerEvent.leaves, TeeEvent.leaves, TeeAnswers.AllSucceed, h]
  | noOutput hi ho ha h => simp [ManagerEvent.leaves, TeeEvent.leaves, TeeAnswers.AllSucceed, h]
  | notInvoked hi ho ha hao h => simp [ManagerEvent.leaves, TeeEvent.leaves, TeeAnswers.AllSucceed, h]
  | completed h =>
    simp [ManagerEvent.leaves, TeeEvent.leaves, h, hbuf]
    omega

/-! ## The ways out of a transaction -/

/-- The stub refuses a `CMD_SEND_COMMAND`, calls the service, or dies. -/
theorem serveSendCommand_cases (mem : Allocator) (service : ManagerService) (t : TeeAnswers) (uid : Int) (data : Parcel Empty) :
    (¬SendCommandNoRoom mem data ∧ ¬SendCommandOverruns mem t uid data ∧
        serveSendCommand mem service data = ⟨some badValue, Parcel.empty, []⟩) ∨
      (¬SendCommandNoRoom mem data ∧ ∃ status reply room cmd rsp cmdLen rspLen,
        (SendCommandOverruns mem t uid data ↔ (ManagerEvent.sendCommand cmd cmdLen rsp rspLen).overruns mem t uid = true) ∧
          serveSendCommand mem service data = ⟨some status, reply, [.clear room rspLen, .sendCommand cmd cmdLen rsp rspLen]⟩) ∨
      SendCommandNoRoom mem data ∧ ¬SendCommandOverruns mem t uid data ∧
        ∃ reply len, serveSendCommand mem service data = ⟨none, reply, [.clear none len]⟩ := by
  unfold serveSendCommand SendCommandNoRoom SendCommandOverruns
  rcases data.readInt32 with ⟨cmdLen, d1⟩
  dsimp only
  rcases d1.readInt32 with ⟨rspLen, d2⟩
  dsimp only
  by_cases hover : 0xFFFFFFFF - cmdLen < rspLen
  · rw [if_pos hover]
    exact Or.inl ⟨fun h => h.1 hover, fun h => h.1 hover, rfl⟩
  by_cases hzero : cmdLen = 0 ∨ rspLen = 0
  · rw [if_neg hover, if_pos hzero]
    exact Or.inl ⟨fun h => hzero.elim h.2.1 h.2.2.1, fun h => hzero.elim h.2.1 h.2.2.1, rfl⟩
  rw [if_neg hover, if_neg hzero]
  rw [not_or] at hzero
  rcases d2.readInplace cmdLen.toNat with ⟨cmd, d3⟩
  dsimp only
  rcases writeInplace_cases mem rspLen with ⟨hroom, reply, hw⟩ | ⟨hroom, reply, hw⟩
  · rw [hw]
    exact Or.inr (Or.inr ⟨⟨hover, hzero.1, hzero.2, hroom⟩, fun h => hroom h.2.2.2.1, _, _, rfl⟩)
  · rw [hw]
    have hlen : (cleared (room mem rspLen.toNat) rspLen).length = padded rspLen.toNat := by
      rw [cleared_room, length_block, length_zeros]
    refine Or.inr (Or.inl ⟨fun h => h.2.2.2 hroom, _, _, _, _, _, _, _, ?_, rfl⟩)
    rw [overruns_sendCommand_iff mem t uid cmd hzero.1 hzero.2 hlen]
    exact ⟨fun h => h.2.2.2.2, fun h => ⟨hover, hzero.1, hzero.2, hroom, h⟩⟩

theorem serveGetEseCplc_cases (mem : Allocator) (service : ManagerService) (t : TeeAnswers) (uid : Int) (data : Parcel Empty) :
    (¬GetEseCplcNoRoom mem data ∧ ¬GetEseCplcOverruns mem t data ∧
        serveGetEseCplc mem service data = ⟨some badValue, Parcel.empty, []⟩) ∨
      (¬GetEseCplcNoRoom mem data ∧ ∃ status reply room cplcBuf cplcLen,
        (GetEseCplcOverruns mem t data ↔ (ManagerEvent.getEseCplc cplcBuf cplcLen).overruns mem t uid = true) ∧
          serveGetEseCplc mem service data = ⟨some status, reply, [.clear room cplcLen, .getEseCplc cplcBuf cplcLen]⟩) ∨
      GetEseCplcNoRoom mem data ∧ ¬GetEseCplcOverruns mem t data ∧
        ∃ reply len, serveGetEseCplc mem service data = ⟨none, reply, [.clear none len]⟩ := by
  unfold serveGetEseCplc GetEseCplcNoRoom GetEseCplcOverruns
  rcases data.readInt32 with ⟨cplcLen, d1⟩
  dsimp only
  by_cases hzero : cplcLen = 0
  · rw [if_pos hzero]
    exact Or.inl ⟨fun h => h.1 hzero, fun h => h.1 hzero, rfl⟩
  rw [if_neg hzero]
  rcases writeInplace_cases mem cplcLen with ⟨hroom, reply, hw⟩ | ⟨hroom, reply, hw⟩
  · rw [hw]
    exact Or.inr (Or.inr ⟨⟨hzero, hroom⟩, fun h => hroom h.2.1, _, _, rfl⟩)
  · rw [hw]
    have hlen : (cleared (room mem cplcLen.toNat) cplcLen).length = padded cplcLen.toNat := by
      rw [cleared_room, length_block, length_zeros]
    refine Or.inr (Or.inl ⟨fun h => h.2 hroom, _, _, _, _, _, ?_, rfl⟩)
    rw [overruns_getEseCplc_iff mem t uid hzero hlen]
    exact ⟨fun h => h.2.2, fun h => ⟨hzero, hroom, h⟩⟩

/-- What the stub makes of a transaction, by what is done for it. -/
inductive StubbedExit (mem : Allocator) (x : Transaction) : ManagerServed → Prop where
  | nothing (hx : x.Harmless mem) (ha : x.added = 0) (status : Int) (reply : Parcel Empty) :
      StubbedExit mem x ⟨some status, reply, []⟩
  | setSomething (hx : x.Harmless mem) (status : Int) (reply : Parcel Empty) :
      StubbedExit mem x ⟨some status, reply, [.setSomething x.added]⟩
  | getSomething (hx : x.Harmless mem) (ha : x.added = 0) (status : Int) (reply : Parcel Empty) :
      StubbedExit mem x ⟨some status, reply, [.getSomething]⟩
  | sendCommand (hn : ¬x.NoRoom mem) (ha : x.added = 0) (ht : x.Addressed) (hc : x.code = cmdSendCommand) (status : Int)
      (reply : Parcel Empty) (room cmd rsp : Ptr) (cmdLen rspLen : UInt32)
      (ho : x.Overruns mem ↔ (ManagerEvent.sendCommand cmd cmdLen rsp rspLen).overruns mem x.tee x.uid = true) :
      StubbedExit mem x ⟨some status, reply, [.clear room rspLen, .sendCommand cmd cmdLen rsp rspLen]⟩
  | sendCommandEx (hx : x.Harmless mem) (ha : x.added = 0) (ht : x.Addressed) (hc : x.code = cmdSendCommandEx) (status : Int)
      (reply : Parcel Empty) (cmdId : UInt32) (buffer : Ptr) (len : UInt32) :
      StubbedExit mem x ⟨some status, reply, [.sendCommandEx cmdId buffer len]⟩
  | getEseCplc (hn : ¬x.NoRoom mem) (ha : x.added = 0) (ht : x.Addressed) (hc : x.code = cmdGetcplc) (status : Int)
      (reply : Parcel Empty) (room cplcBuf : Ptr) (cplcLen : UInt32)
      (ho : x.Overruns mem ↔ (ManagerEvent.getEseCplc cplcBuf cplcLen).overruns mem x.tee x.uid = true) :
      StubbedExit mem x ⟨some status, reply, [.clear room cplcLen, .getEseCplc cplcBuf cplcLen]⟩
  | died (hn : x.NoRoom mem) (ho : ¬x.Overruns mem) (reply : Parcel Empty) (len : UInt32) :
      StubbedExit mem x ⟨none, reply, [.clear none len]⟩

theorem stubbed_exit (mem : Allocator) (base : BBinder Empty) (myParam : Int32) (x : Transaction) :
    StubbedExit mem x (x.stubbed mem base myParam) := by
  have hexit := managerOnTransact_exit mem (eseManagerService x.tee x.fp x.uid myParam) base x.code x.data
  unfold Transaction.stubbed
  generalize managerOnTransact mem (eseManagerService x.tee x.fp x.uid myParam) base x.code x.data = o at hexit ⊢
  cases hexit with
  | refused hc ht => exact .nothing (Transaction.harmless_of_not_addressed ht) (Transaction.added_of_not_addressed ht) _ _
  | setSomething hc ht =>
    have ha : x.added = x.data.readInt32.1.toInt32 := if_pos ⟨hc, ht⟩
    rw [← ha]
    exact .setSomething (Transaction.harmless_of_code (by rw [hc]; decide)) _ _
  | getSomething hc ht =>
    have ha : x.added = 0 := Transaction.added_of_code (by rw [hc]; decide)
    exact .getSomething (Transaction.harmless_of_code (by rw [hc]; decide)) ha _ _
  | sendCommand hc ht =>
    obtain ⟨hn, ho⟩ := Transaction.sendCommand_iff mem ht hc
    have ha : x.added = 0 := Transaction.added_of_code (by rw [hc]; decide)
    rcases serveSendCommand_cases mem (eseManagerService x.tee x.fp x.uid myParam) x.tee x.uid x.data with
      ⟨hroom, hover, h⟩ | ⟨hroom, status, reply, room, cmd, rsp, cmdLen, rspLen, hover, h⟩ | ⟨hroom, hover, reply, len, h⟩
    · rw [h]
      exact .nothing ⟨hn.not.2 hroom, ho.not.2 hover⟩ ha _ _
    · rw [h]
      exact .sendCommand (hn.not.2 hroom) ha ht hc _ _ _ _ _ _ _ (ho.trans hover)
    · rw [h]
      exact .died (hn.2 hroom) (ho.not.2 hover) _ _
  | sendCommandEx hc ht =>
    have ha : x.added = 0 := Transaction.added_of_code (by rw [hc]; decide)
    unfold serveSendCommandEx
    exact .sendCommandEx (Transaction.harmless_of_code (by rw [hc]; decide)) ha ht hc _ _ _ _ _
  | getEseCplc hc ht =>
    obtain ⟨hn, ho⟩ := Transaction.getEseCplc_iff mem ht hc
    have ha : x.added = 0 := Transaction.added_of_code (by rw [hc]; decide)
    rcases serveGetEseCplc_cases mem (eseManagerService x.tee x.fp x.uid myParam) x.tee x.uid x.data with
      ⟨hroom, hover, h⟩ | ⟨hroom, status, reply, room, cplcBuf, cplcLen, hover, h⟩ | ⟨hroom, hover, reply, len, h⟩
    · rw [h]
      exact .nothing ⟨hn.not.2 hroom, ho.not.2 hover⟩ ha _ _
    · rw [h]
      exact .getEseCplc (hn.not.2 hroom) ha ht hc _ _ _ _ _ (ho.trans hover)
    · rw [h]
      exact .died (hn.2 hroom) (ho.not.2 hover) _ _
  | unknown hc =>
    simp only [List.mem_cons, List.not_mem_nil, or_false, not_or] at hc
    obtain ⟨hset, -, hsend, -, hget⟩ := hc
    exact .nothing (Transaction.harmless_of_code ⟨hsend, hget⟩) (Transaction.added_of_code hset) _ _

/-! ## What reaches the two clients -/

/-- The transaction may have these bytes sent to the trusted application. -/
def Transaction.MayTransmit (x : Transaction) (input : List UInt8) : Prop :=
  x.Addressed ∧ (x.code = cmdGetcplc ∧ input = getCplcCmd ∨ x.code = cmdSendCommand ∧ sendCommandAllowed x.uid = true)

/-- The transaction may have the client of the fingerprint application called. -/
def Transaction.MayBind (x : Transaction) : Prop :=
  x.Addressed ∧ x.code = cmdSendCommandEx ∧ sendCommandExAllowed x.uid = true

/-- Whatever is sent to the trusted application, and every call of the fingerprint client, is for a transaction that may have it. -/
def ManagerDone.Authorised (o : ManagerDone) (i : ManagerInput) : Prop :=
  (∀ id input size ret, .invokeCommand id input size ret ∈ o.teeEvents →
      id = halTransmit ∧ ∃ x, i = .transact x ∧ x.MayTransmit input) ∧
    (o.fpCalls ≠ [] → ∃ x, i = .transact x ∧ x.MayBind)

/-- Every command of an exchange is `HAL_TRANSMIT`, with the input of the exchange. -/
theorem exchange_invokes {t : TeeAnswers} {sized loaded copied : List TeeEvent} {inputSize outputSize : UInt32}
    {input bytes : List UInt8} {id size : UInt32} {ret : TeecResult} (hs : .invokeCommand id bytes size ret ∉ sized)
    (hl : .invokeCommand id bytes size ret ∉ loaded) (hc : .invokeCommand id bytes size ret ∉ copied)
    (h : .invokeCommand id bytes size ret ∈ (exchange t sized inputSize loaded input outputSize copied).2) :
    id = halTransmit ∧ bytes = input := by
  have hexit := exchange_exit t sized inputSize loaded input outputSize copied
  generalize exchange t sized inputSize loaded input outputSize copied = r at hexit h
  cases hexit with
  | noContext => simp at h
  | noSession => simp at h
  | noInput => simp [hs] at h
  | noOutput => simp [hs, hl] at h
  | notInvoked =>
    have hret : id = halTransmit ∧ bytes = input ∧ size = outputSize ∧ ret = t.invokeCommand := by simpa [hs, hl] using h
    exact ⟨hret.1, hret.2.1⟩
  | completed =>
    have hret : id = halTransmit ∧ bytes = input ∧ size = outputSize ∧ ret = t.invokeCommand := by
      simpa [hs, hl, hc] using h
    exact ⟨hret.1, hret.2.1⟩

theorem caSendEseCommand_invokes {t : TeeAnswers} {cmd rsp : Option Mem} {cmdLen rspLen : UInt32} {id size : UInt32}
    {bytes : List UInt8} {ret : TeecResult}
    (h : .invokeCommand id bytes size ret ∈ (caSendEseCommand t cmd cmdLen rsp rspLen).events) : id = halTransmit := by
  unfold caSendEseCommand at h
  split at h
  · split_ifs at h
    · cases h
    · exact (exchange_invokes (by simp) (by simp) (by simp) h).1
  · cases h

theorem caGetEseCplc_invokes {t : TeeAnswers} {cplcBuf : Option Mem} {cplcLen : UInt32} {id size : UInt32}
    {bytes : List UInt8} {ret : TeecResult}
    (h : .invokeCommand id bytes size ret ∈ (caGetEseCplc t cplcBuf cplcLen).1.events) :
    id = halTransmit ∧ bytes = getCplcCmd := by
  cases cplcBuf with
  | none => cases h
  | some buf =>
    by_cases hz : cplcLen = 0
    · rw [hz] at h
      cases h
    · have hevents : (caGetEseCplc t (some buf) cplcLen).1.events =
          (exchange t [] 5 [] getCplcCmd cplcLen
            [.loadShm .output 0 t.outSize.toNat, .storeRsp 0 (t.outBuffer.read 0 t.outSize.toNat)]).2 := by
        simp only [caGetEseCplc, hz, if_false]
        split_ifs <;> rfl
      rw [hevents] at h
      exact exchange_invokes (by simp) (by simp) (by simp) h

/-- What the TEE client does for a transaction is part of what it does for one of the calls. -/
theorem mem_of_mem_teeEvents {mem : Allocator} {x : Transaction} {o : ManagerServed} {e : TeeEvent} (h : e ∈ x.teeEvents mem o) :
    ∃ c ∈ o.events, e ∈ c.teeEvents mem x.tee x.uid := by
  unfold Transaction.teeEvents at h
  obtain ⟨c, hc, h⟩ := List.mem_flatMap.1 h
  refine ⟨c, hc, ?_⟩
  split at h
  · exact (List.takeWhile_prefix _).subset h
  · exact h

/-- A copy that kills the process takes nothing back. -/
theorem served_events (mem : Allocator) (base : BBinder Empty) (p : Int32) (x : Transaction) :
    (x.served mem base p).events = (x.stubbed mem base p).events := by
  unfold Transaction.served
  dsimp only
  split
  · rfl
  · rfl

/-- The commands of a transaction are ones that it may have sent. -/
theorem StubbedExit.invokes {mem : Allocator} {x : Transaction} {o : ManagerServed} (hexit : StubbedExit mem x o) {c : ManagerEvent}
    (hc : c ∈ o.events) {id size : UInt32} {input : List UInt8} {ret : TeecResult}
    (h : .invokeCommand id input size ret ∈ c.teeEvents mem x.tee x.uid) : id = halTransmit ∧ x.MayTransmit input := by
  cases hexit with
  | nothing => cases hc
  | setSomething =>
    cases List.mem_singleton.1 hc
    cases h
  | getSomething =>
    cases List.mem_singleton.1 hc
    cases h
  | sendCommand hn ha ht hcode status reply room cmd rsp cmdLen rspLen =>
    simp only [List.mem_cons, List.not_mem_nil, or_false] at hc
    rcases hc with rfl | rfl
    · cases h
    rcases sendCommand_teeEvents mem x.tee x.uid cmd rsp cmdLen rspLen with ⟨-, -, hnil⟩ | ⟨huid, -, hevents⟩
    · rw [hnil] at h
      cases h
    · rw [hevents] at h
      exact ⟨caSendEseCommand_invokes h, ht, Or.inr ⟨hcode, huid⟩⟩
  | sendCommandEx =>
    cases List.mem_singleton.1 hc
    cases h
  | getEseCplc hn ha ht hcode status reply room cplcBuf cplcLen =>
    simp only [List.mem_cons, List.not_mem_nil, or_false] at hc
    rcases hc with rfl | rfl
    · cases h
    obtain ⟨hid, hinput⟩ := caGetEseCplc_invokes h
    exact ⟨hid, ht, Or.inl ⟨hcode, hinput⟩⟩
  | died =>
    cases List.mem_singleton.1 hc
    cases h

/-- The fingerprint client is called for a transaction that may have it called. -/
theorem StubbedExit.binds {mem : Allocator} {x : Transaction} {o : ManagerServed} (hexit : StubbedExit mem x o)
    (h : o.events.flatMap (ManagerEvent.fpCalls x.uid) ≠ []) : x.MayBind := by
  cases hexit with
  | sendCommandEx hx ha ht hcode status reply cmdId buffer len =>
    rw [List.flatMap_singleton] at h
    -- What the fingerprint client answers does not matter.
    rcases sendCommandEx_fpCalls mem x.fp x.uid cmdId buffer len with ⟨hnil, -⟩ | ⟨huid, -⟩
    · exact absurd hnil h
    · exact ⟨ht, hcode, huid⟩
  | _ => simp [ManagerEvent.fpCalls] at h

/-- One step: whatever the parcel holds, and in whichever state the daemon is. -/
theorem managerDaemon_out_authorised (mem : Allocator) (base : BBinder Empty) (s : Option Int32) (i : ManagerInput) :
    ((managerDaemon mem base).out s i).Authorised i := by
  have hnothing : ∀ i, ManagerDone.nothing.Authorised i := fun i =>
    ⟨fun _ _ _ _ h => absurd h List.not_mem_nil, fun h => (h rfl).elim⟩
  cases i with
  | restart =>
    have hout : (managerDaemon mem base).out s .restart = .nothing := by cases s <;> rfl
    rw [hout]
    exact hnothing _
  | transact x =>
    cases s with
    | none => exact hnothing _
    | some myParam =>
      have hexit := stubbed_exit mem base myParam x
      have hevents := served_events mem base myParam x
      refine ⟨fun id input size ret h => ?_, fun h => ⟨x, rfl, hexit.binds (hevents ▸ h)⟩⟩
      obtain ⟨c, hc, h⟩ := mem_of_mem_teeEvents h
      obtain ⟨hid, hmay⟩ := hexit.invokes (hevents ▸ hc) h
      exact ⟨hid, x, rfl, hmay⟩

/-- Along every run of the daemon, for transactions of any callers with any contents and any starts of the process: the trusted
application gets `HAL_TRANSMIT` only, with the command for the CPLC, or with a command of system or root; and the fingerprint client is
called for system, root or radio only. -/
theorem managerDaemon_authorised (mem : Allocator) (base : BBinder Empty) (s : Option Int32) (is : List ManagerInput) :
    (managerDaemon mem base).Along (fun s i => ((managerDaemon mem base).out s i).Authorised i) s is :=
  Machine.along_of_forall_mem _ (fun i _ s => managerDaemon_out_authorised mem base s i) s

/-! ## What the daemon keeps -/

/-- How a way out shows which transaction it was: whether it got no room, and whether a copy went past its memory; and what it adds. -/
theorem StubbedExit.shows {mem : Allocator} {x : Transaction} {o : ManagerServed} (h : StubbedExit mem x o) (p : Int32) :
    (o.status = none ↔ x.NoRoom mem) ∧ (x.overruns mem o = true ↔ x.Overruns mem) ∧
      (¬x.NoRoom mem → o.events.foldl ManagerEvent.paramAfter p = p + x.added) := by
  unfold Transaction.overruns
  cases h with
  | nothing hx ha => simp [hx.1, hx.2, ha]
  | setSomething hx => simp [hx.1, hx.2, ManagerEvent.overruns, ManagerEvent.teeEvents, ManagerEvent.paramAfter]
  | getSomething hx ha => simp [hx.1, hx.2, ha, ManagerEvent.overruns, ManagerEvent.teeEvents, ManagerEvent.paramAfter]
  | sendCommandEx hx ha => simp [hx.1, hx.2, ha, ManagerEvent.overruns, ManagerEvent.teeEvents, ManagerEvent.paramAfter]
  | sendCommand hn ha ht hc status reply room cmd rsp cmdLen rspLen ho =>
    have hclear : (ManagerEvent.clear room rspLen).overruns mem x.tee x.uid = false := rfl
    simp [hn, ha, ho, hclear, ManagerEvent.paramAfter]
  | getEseCplc hn ha ht hc status reply room cplcBuf cplcLen ho =>
    have hclear : (ManagerEvent.clear room cplcLen).overruns mem x.tee x.uid = false := rfl
    simp [hn, ha, ho, hclear, ManagerEvent.paramAfter]
  | died hn ho => simp [hn, ho, ManagerEvent.overruns, ManagerEvent.teeEvents]

/-- What a transaction does to the state: the process dies of it, or has a number after it, which has grown by what is added when it
harms nothing. -/
theorem managerDaemon_next_transact (mem : Allocator) (base : BBinder Empty) (p : Int32) (x : Transaction) :
    (x.Deadly mem ∧ (managerDaemon mem base).next (some p) (.transact x) = none) ∨
      (¬x.Deadly mem ∧ ∃ q, (managerDaemon mem base).next (some p) (.transact x) = some q ∧ (x.Harmless mem → q = p + x.added)) := by
  obtain ⟨hroom, hover, hadded⟩ := (stubbed_exit mem base p x).shows p
  have hnext : (managerDaemon mem base).next (some p) (.transact x) =
      (x.served mem base p).status.map fun _ => x.paramAfter mem p (x.served mem base p) := rfl
  have hparam : x.paramAfter mem p (x.served mem base p) = x.paramAfter mem p (x.stubbed mem base p) := by
    unfold Transaction.paramAfter Transaction.overruns
    rw [served_events]
  rw [hnext, hparam]
  by_cases hkilled : x.Overruns mem ∧ x.overrun = none
  · refine Or.inl ⟨Or.inr hkilled, ?_⟩
    unfold Transaction.served
    dsimp only
    rw [if_pos ⟨hover.2 hkilled.1, hkilled.2⟩]
    rfl
  · have hserved : x.served mem base p = x.stubbed mem base p := by
      unfold Transaction.served
      exact if_neg fun h => hkilled ⟨hover.1 h.1, h.2⟩
    rw [hserved]
    by_cases hn : x.NoRoom mem
    · exact Or.inl ⟨Or.inl hn, by rw [hroom.2 hn, Option.map_none]⟩
    · obtain ⟨status, hstatus⟩ := Option.ne_none_iff_exists'.1 (hroom.not.2 hn)
      refine Or.inr ⟨fun hd => hd.elim hn hkilled, x.paramAfter mem p (x.stubbed mem base p), ?_, fun hx => ?_⟩
      · rw [hstatus, Option.map_some]
      · unfold Transaction.paramAfter
        rw [if_neg fun h => hx.2 (hover.1 h), hadded hn]

/-- A process that has died stays dead until it is started again. -/
theorem managerDaemon_run_none (mem : Allocator) (base : BBinder Empty) (xs : List Transaction) :
    (managerDaemon mem base).run none (xs.map .transact) = none := by
  induction xs with
  | nil => rfl
  | cons x xs ih => exact ih

/-- A run of transactions. -/
theorem managerDaemon_run_transacts (mem : Allocator) (base : BBinder Empty) (p : Int32) (xs : List Transaction) :
    ((∃ x ∈ xs, x.Deadly mem) ↔ (managerDaemon mem base).run (some p) (xs.map .transact) = none) ∧
      ((∀ x ∈ xs, x.Harmless mem) →
        (managerDaemon mem base).run (some p) (xs.map .transact) = some (p + (xs.map Transaction.added).sum)) := by
  induction xs generalizing p with
  | nil =>
    refine ⟨iff_of_false ?_ ?_, fun _ => ?_⟩
    · rintro ⟨x, hx, -⟩
      exact absurd hx List.not_mem_nil
    · exact Option.some_ne_none p
    · simp
  | cons x xs ih =>
    rw [List.map_cons, Machine.run_cons, List.exists_mem_cons_iff, List.forall_mem_cons]
    rcases managerDaemon_next_transact mem base p x with ⟨hd, hnext⟩ | ⟨hd, q, hnext, hq⟩
    · rw [hnext]
      exact ⟨iff_of_true (Or.inl hd) (managerDaemon_run_none mem base xs), fun h => absurd hd h.1.not_deadly⟩
    · rw [hnext]
      obtain ⟨hdead, hkept⟩ := ih q
      refine ⟨(or_iff_right hd).trans hdead, fun h => ?_⟩
      rw [hkept h.2, hq h.1, List.map_cons, List.sum_cons, Int32.add_assoc]

/-- The proxy of `getSomething` gives `myParam`, or zero when nobody is there. -/
theorem bpGetSomething_daemonRemote {mem : Allocator} (hgrows : ∀ n, mem.grows n = true) (base : BBinder Empty)
    (s : Option Int32) (uid : Int) (t : TeeAnswers) (fp : FpClient) (overrun : Option Int32) :
    bpGetSomething (daemonRemote mem base s uid t fp overrun) = s.getD 0 := by
  cases s with
  | none => rfl
  | some myParam =>
    have hserved : daemonRemote mem base (some myParam) uid t fp overrun getSomething (request []) =
        ⟨some ok, replyOf [] (Mem.bytesOfU32 myParam.toUInt32), [.getSomething]⟩ := by
      simp [daemonRemote, Transaction.served, Transaction.stubbed, Transaction.overruns, ManagerEvent.overruns,
        ManagerEvent.teeEvents, managerOnTransact_getSomething, request_token, writeInt32_of_grows hgrows, eseManagerService, replyOf,
        empty]
    have hread := readInt32_bytesOfU32 none ([] : List (Option Empty)) ok myParam.toUInt32 []
    rw [List.append_nil] at hread
    simp only [bpGetSomething, managerRequest_eq, managerTransact_served hserved rfl]
    rw [if_neg (by decide)]
    simp [replyOf, hread]

/-- The proxy of `setSomething` gives zero, whether anybody is there or not. -/
theorem bpSetSomething_daemonRemote {mem : Allocator} (hgrows : ∀ n, mem.grows n = true) (base : BBinder Empty)
    (s : Option Int32) (uid : Int) (t : TeeAnswers) (fp : FpClient) (overrun : Option Int32) (a : Int32) :
    bpSetSomething mem (daemonRemote mem base s uid t fp overrun) a = 0 := by
  have hdata : (managerRequest.writeInt32 mem a.toUInt32).2 = request (Mem.bytesOfU32 a.toUInt32) := by
    rw [writeInt32_of_grows hgrows]
    simp [managerRequest_eq, request]
  unfold bpSetSomething
  rcases hwrite : managerRequest.writeInt32 mem a.toUInt32 with ⟨ret, data⟩
  rw [hwrite] at hdata
  dsimp only at hdata ⊢
  rw [hdata]
  cases s with
  | none => rfl
  | some myParam =>
    have hserved : daemonRemote mem base (some myParam) uid t fp overrun setSomething (request (Mem.bytesOfU32 a.toUInt32)) =
        ⟨some ok, replyOf [] (Mem.bytesOfU32 (Int32.toUInt32 0)),
          [.setSomething (request (Mem.bytesOfU32 a.toUInt32)).readInt32.1.toInt32]⟩ := by
      simp [daemonRemote, Transaction.served, Transaction.stubbed, Transaction.overruns, ManagerEvent.overruns,
        ManagerEvent.teeEvents, managerOnTransact_setSomething, request_token, writeInt32_of_grows hgrows, eseManagerService, replyOf,
        empty]
    rw [managerTransact_served hserved rfl]
    rfl

/-- A request of any app for a CPLC of four bytes, in answer to which the trusted application leaves a size of `0xFFFFFFFF`. -/
def overlongCplc (uid : Int) : Transaction :=
  ⟨uid, cmdGetcplc, request (Mem.bytesOfU32 4), ⟨0, 0, 0, 0, 0, 0xFFFFFFFF, fun _ => 0x90⟩, ⟨0, 0, fun _ _ => 0⟩, none⟩

end EseManager
