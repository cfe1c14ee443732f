import EseManager.Lemmas.ManagerRpc

/-!
# What the stub of the manager service does with malformed requests

The lengths in a request are whatever its sender has put there. The stub looks at their sum and at zeros, and not at whether the bytes
are there or the reply has got its room: so a pointer that it uses may be null. `managerOnTransact_safe_iff` says for which requests
every pointer that it uses covers its length, and everything else is refused.
-/

namespace EseManager

open Ipc Parcel

/-- The pointer is not null, and `len` bytes of its parcel follow it. -/
def Covers (ptr : Ptr) (len : UInt32) : Prop := ∃ bs, ptr = some bs ∧ len.toNat ≤ bs.length

/-- Every pointer that is used covers the length that goes with it. -/
@[simp]
def ManagerEvent.Guarded : ManagerEvent → Prop
  | .clear buf len => Covers buf len
  | .sendCommand cmd cmdLen rsp rspLen => Covers cmd cmdLen ∧ Covers rsp rspLen
  | .sendCommandEx _ buffer len => Covers buffer len
  | .getEseCplc cplcBuf cplcLen => Covers cplcBuf cplcLen
  | .setSomething _ => True
  | .getSomething => True

/-- A call with buffers, or the clearing of one. -/
@[simp]
def ManagerEvent.OnBuffers : ManagerEvent → Prop
  | .clear _ _ => True
  | .sendCommand _ _ _ _ => True
  | .sendCommandEx _ _ _ => True
  | .getEseCplc _ _ => True
  | .setSomething _ => False
  | .getSomething => False

/-- Whenever buffers are used, the pointers cover them; a request for which none is used is refused, and the service is not called. -/
def ManagerServed.Safe (o : ManagerServed) : Prop :=
  (∀ e ∈ o.events, e.Guarded) ∧
    ((∀ e ∈ o.events, ¬e.OnBuffers) → (∃ status, o.status = some status ∧ status < 0) ∧ o.events = [])

/-- So many bytes are left in the parcel. -/
def Present (data : Parcel Empty) (len : UInt32) : Prop := len.toNat ≤ int32Max ∧ len.toNat ≤ data.data.length

/-- An empty reply has room for so many bytes. -/
def HasRoom (mem : Allocator) (len : UInt32) : Prop := len.toNat ≤ int32Max ∧ mem.grows (padded len.toNat) = true

/-- The requests of `CMD_SEND_COMMAND` that the stub refuses, or for which both buffers are there. -/
def SendCommandSound (mem : Allocator) (data : Parcel Empty) : Prop :=
  let (cmdLen, data) := data.readInt32
  let (rspLen, data) := data.readInt32
  0xFFFFFFFF - cmdLen < rspLen ∨ cmdLen = 0 ∨ rspLen = 0 ∨ Present data cmdLen ∧ HasRoom mem rspLen

/-- The requests of `CMD_SEND_COMMAND_EX` whose buffer is there. -/
def SendCommandExSound (data : Parcel Empty) : Prop :=
  let (_, data) := data.readInt32
  let (bufferLen, data) := data.readInt32
  Present data bufferLen

/-- The requests of `CMD_GETCPLC` that the stub refuses, or for which the reply has room. -/
def GetEseCplcSound (mem : Allocator) (data : Parcel Empty) : Prop :=
  let (cplcLen, _) := data.readInt32
  cplcLen = 0 ∨ HasRoom mem cplcLen

/-- The requests that the stub deals with as it should: `SET_SOMETHING` and `GET_SOMETHING` call the service whatever they hold. -/
def RequestSound (mem : Allocator) (base : BBinder Empty) (code : UInt32) (data : Parcel Empty) : Prop :=
  if code ∈ [setSomething, getSomething, cmdSendCommand, cmdSendCommandEx, cmdGetcplc] then
    data.checkInterface ieseManagerService = false ∨ code = cmdSendCommand ∧ SendCommandSound mem data ∨
      code = cmdSendCommandEx ∧ SendCommandExSound data ∨ code = cmdGetcplc ∧ GetEseCplcSound mem data
  else
    (base code data).1 < 0

/-! ## Pointers -/

/-- A pointer into a request covers the bytes that are there. -/
theorem covers_readInplace_iff (data : Parcel Empty) (len : UInt32) :
    Covers (data.readInplace len.toNat).1 len ↔ Present data len := by
  unfold readInplace Present
  constructor
  · rintro ⟨bs, hbs, -⟩
    split_ifs at hbs with h
    exact h
  · intro h
    rw [if_pos h]
    exact ⟨data.data, rfl, h.2⟩

/-- `writeInplace` on a new reply: a null pointer, or the room for the bytes. -/
theorem writeInplace_cases (mem : Allocator) (len : UInt32) :
    (¬HasRoom mem len ∧ ∃ reply, (empty : Parcel Empty).writeInplace mem len.toNat = (none, reply)) ∨
      (HasRoom mem len ∧ ∃ reply, (empty : Parcel Empty).writeInplace mem len.toNat = (some (room mem len.toNat), reply)) := by
  unfold writeInplace HasRoom
  split_ifs with hlen hgrows
  · exact Or.inl ⟨fun h => Nat.not_lt.2 h.1 hlen, _, rfl⟩
  · refine Or.inl ⟨fun h => ?_, _, rfl⟩
    rw [show (empty : Parcel Empty).data.length = 0 from rfl, Nat.zero_add, h.2] at hgrows
    cases hgrows
  · refine Or.inr ⟨⟨Nat.not_lt.1 hlen, ?_⟩, _, rfl⟩
    rw [show (empty : Parcel Empty).data.length = 0 from rfl, Nat.zero_add] at hgrows
    simpa using hgrows

@[simp] theorem covers_room (mem : Allocator) (len : UInt32) : Covers (some (room mem len.toNat)) len :=
  ⟨_, rfl, by rw [length_room]; exact le_padded _⟩

@[simp] theorem covers_cleared_room (mem : Allocator) (len : UInt32) : Covers (some (cleared (room mem len.toNat) len)) len := by
  refine ⟨_, rfl, ?_⟩
  rw [cleared_room, length_block, length_zeros]
  exact le_padded _

@[simp] theorem not_covers_none (len : UInt32) : ¬Covers none len := by
  rintro ⟨bs, hbs, -⟩
  cases hbs

/-! ## The cases of the stub -/

/-- A refusal is safe. -/
theorem safe_of_refused {o : ManagerServed} {status : Int} (h : o.status = some status) (hneg : status < 0)
    (hevents : o.events = []) : o.Safe := by
  constructor
  · rw [hevents]
    exact fun e he => absurd he List.not_mem_nil
  · exact fun _ => ⟨⟨status, h, hneg⟩, hevents⟩

/-- `CMD_SEND_COMMAND` is safe exactly for a sound request. -/
theorem serveSendCommand_safe_iff (mem : Allocator) (service : ManagerService) (data : Parcel Empty) :
    (serveSendCommand mem service data).Safe ↔ SendCommandSound mem data := by
  unfold serveSendCommand SendCommandSound
  rcases data.readInt32 with ⟨cmdLen, d1⟩
  dsimp only
  rcases d1.readInt32 with ⟨rspLen, d2⟩
  dsimp only
  by_cases hover : 0xFFFFFFFF - cmdLen < rspLen
  · rw [if_pos hover]
    exact iff_of_true (safe_of_refused rfl (by decide) rfl) (Or.inl hover)
  by_cases hzero : cmdLen = 0 ∨ rspLen = 0
  · rw [if_neg hover, if_pos hzero]
    exact iff_of_true (safe_of_refused rfl (by decide) rfl) (Or.inr (hzero.imp_right Or.inl))
  rw [if_neg hover, if_neg hzero]
  have hsound : (0xFFFFFFFF - cmdLen < rspLen ∨ cmdLen = 0 ∨ rspLen = 0 ∨ Present d2 cmdLen ∧ HasRoom mem rspLen) ↔
      Present d2 cmdLen ∧ HasRoom mem rspLen := by
    rw [not_or] at hzero
    simp only [hover, hzero.1, hzero.2, false_or]
  rw [hsound, ← covers_readInplace_iff]
  rcases d2.readInplace cmdLen.toNat with ⟨cmd, d3⟩
  dsimp only
  rcases writeInplace_cases mem rspLen with ⟨hroom, reply, hw⟩ | ⟨hroom, reply, hw⟩
  · simp [hw, hroom, ManagerServed.Safe]
  · simp [hw, hroom, ManagerServed.Safe]

/-- So is `CMD_SEND_COMMAND_EX`. -/
theorem serveSendCommandEx_safe_iff (mem : Allocator) (service : ManagerService) (data : Parcel Empty) :
    (serveSendCommandEx mem service data).Safe ↔ SendCommandExSound data := by
  unfold serveSendCommandEx SendCommandExSound
  rcases data.readInt32 with ⟨cmdId, d1⟩
  dsimp only
  rcases d1.readInt32 with ⟨bufferLen, d2⟩
  dsimp only
  rw [← covers_readInplace_iff]
  simp [ManagerServed.Safe]

/-- So is `CMD_GETCPLC`. -/
theorem serveGetEseCplc_safe_iff (mem : Allocator) (service : ManagerService) (data : Parcel Empty) :
    (serveGetEseCplc mem service data).Safe ↔ GetEseCplcSound mem data := by
  unfold serveGetEseCplc GetEseCplcSound
  rcases data.readInt32 with ⟨cplcLen, d1⟩
  dsimp only
  by_cases hzero : cplcLen = 0
  · rw [if_pos hzero]
    exact iff_of_true (safe_of_refused rfl (by decide) rfl) (Or.inl hzero)
  rw [if_neg hzero, or_iff_right hzero]
  rcases writeInplace_cases mem cplcLen with ⟨hroom, reply, hw⟩ | ⟨hroom, reply, hw⟩
  · simp [hw, hroom, ManagerServed.Safe]
  · simp [hw, hroom, ManagerServed.Safe]

/-- For every transaction code and every request: the stub uses only pointers that cover their lengths, and refuses what it does not
dispatch to a method with buffers, exactly when the request is sound. -/
theorem managerOnTransact_safe_iff (mem : Allocator) (service : ManagerService) (base : BBinder Empty) (code : UInt32)
    (data : Parcel Empty) :
    (managerOnTransact mem service base code data).Safe ↔ RequestSound mem base code data := by
  have hexit := managerOnTransact_exit mem service base code data
  generalize managerOnTransact mem service base code data = o at hexit ⊢
  unfold RequestSound
  cases hexit with
  | refused hc ht =>
    rw [if_pos hc]
    exact iff_of_true (safe_of_refused rfl permissionDenied_neg rfl) (Or.inl ht)
  | setSomething hc ht => simp [ManagerServed.Safe, hc, ht, setSomething, cmdSendCommand, cmdSendCommandEx, cmdGetcplc]
  | getSomething hc ht => simp [ManagerServed.Safe, hc, ht, getSomething, cmdSendCommand, cmdSendCommandEx, cmdGetcplc]
  | sendCommand hc ht => simp [serveSendCommand_safe_iff, hc, ht, cmdSendCommand, cmdSendCommandEx, cmdGetcplc]
  | sendCommandEx hc ht => simp [serveSendCommandEx_safe_iff, hc, ht, cmdSendCommand, cmdSendCommandEx, cmdGetcplc]
  | getEseCplc hc ht => simp [serveGetEseCplc_safe_iff, hc, ht, cmdSendCommand, cmdSendCommandEx, cmdGetcplc]
  | unknown hc =>
    rw [if_neg hc]
    simp [ManagerServed.Safe]

/-- The service for a caller without privileges. -/
def serviceForApp : ManagerService := eseManagerService ⟨0, 0, 0, 0, 0, 2, fun _ => 0x90⟩ ⟨0, 0, fun _ _ => 0⟩ 10057 0

/-- A request for `CMD_SEND_COMMAND` that announces a command of eight bytes and holds none. -/
def missingCommand : Parcel Empty := request (Mem.bytesOfU32 8 ++ Mem.bytesOfU32 4)

/-- The service is called with a null pointer for the missing command. -/
theorem managerOnTransact_unsafe :
    .sendCommand none 8 (some (block (zeros 4))) 4 ∈
        (managerOnTransact .endless serviceForApp .refusing cmdSendCommand missingCommand).events ∧
      ¬(managerOnTransact .endless serviceForApp .refusing cmdSendCommand missingCommand).Safe := by
  have hread : (request (Mem.bytesOfU32 4)).readInt32 = (4, request []) := readInt32_request 4 []
  have hevents : (managerOnTransact .endless serviceForApp .refusing cmdSendCommand missingCommand).events =
      [.clear (some (room .endless 4)) 4, .sendCommand none 8 (some (cleared (room .endless 4) 4)) 4] := by
    simp only [missingCommand, (managerOnTransact_request .endless serviceForApp .refusing (request_token _)).1,
      serveSendCommand, readInt32_request, hread]
    rfl
  have hcall : .sendCommand none 8 (some (block (zeros 4))) 4 ∈
      (managerOnTransact .endless serviceForApp .refusing cmdSendCommand missingCommand).events := by
    rw [hevents, ← cleared_room .endless 4]
    exact List.mem_cons_of_mem _ List.mem_cons_self
  exact ⟨hcall, fun hsafe => not_covers_none 8 (hsafe.1 _ hcall).1⟩

end EseManager
