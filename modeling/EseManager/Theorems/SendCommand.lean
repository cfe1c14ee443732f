import EseManager.Lemmas.ManagerRpc
import EseManager.ManagerDaemon
import EseManager.Theorems.RequestParsing

/-!
# A command and its response, end to end

A `send_cmd` on its way from the proxy through the parcels, the stub and the service to the trusted application, and the `send_cmd_rsp`
on its way back.
-/

namespace EseManager

open Ipc Parcel

/-- What the service makes of a command for a caller that may send it, by the result of the TEE calls. -/
theorem serviceSendCommand_eq (t : TeeAnswers) {uid : Int} (huid : sendCommandAllowed uid = true) (cmd rsp : Mem)
    {cmdLen rspLen : UInt32} (hc : cmdLen ≠ 0) (hr : rspLen ≠ 0) :
    serviceSendCommand t uid (some cmd) cmdLen (some rsp) rspLen =
      if t.result = teecSuccess then ⟨noError, (rsp.writeU32 0 t.outSize).write 4 (t.outBuffer.read 0 t.outSize.toNat)⟩
      else if t.result ≤ 0x80000000 then ⟨(caReturn t.result).toInt, rsp⟩
      else ⟨noError, rsp⟩ := by
  have hresult : (sendExchange t cmd rspLen).1 = t.result := exchange_result ..
  unfold sendExchange embeddedLen at hresult
  have hneg := caReturn_neg_iff t.result
  by_cases hok : t.result = teecSuccess
  · have hstatus : caStatus (caReturn teecSuccess) = noError := by decide
    simp [serviceSendCommand, huid, caSendEseCommand, hc, hr, hresult, hok, hstatus]
  · by_cases hle : t.result ≤ 0x80000000
    · have hlt := hneg.2 ⟨hok, hle⟩
      simp [serviceSendCommand, huid, caSendEseCommand, hc, hr, hresult, hok, hle, caStatus, hlt]
    · have hlt : ¬caReturn t.result < 0 := fun h => hle (hneg.1 h).2
      simp [serviceSendCommand, huid, caSendEseCommand, hc, hr, hresult, hok, hle, caStatus, hlt]

/-- A run of bytes in a parcel, through the pointer to it. -/
theorem at_block (mem : Allocator) (bs : List UInt8) :
    ∃ m, mem.at (some (block bs)) = some m ∧ ∀ i (h : i < bs.length), m i = bs[i] := by
  refine ⟨_, rfl, fun i h => ?_⟩
  have hlt : i < (block bs).length := by
    rw [length_block]
    exact Nat.lt_of_lt_of_le h (le_padded _)
  rw [Mem.write_zero_of_lt _ hlt]
  simp [block, h]

/-- The length in a command is read out of its first four bytes. -/
theorem embeddedLen_congr {cmd cmd' : Mem} (h : ∀ i < 4, cmd i = cmd' i) : embeddedLen cmd = embeddedLen cmd' := by
  unfold embeddedLen Mem.readU32
  rw [h 0 (by decide), h 1 (by decide), h 2 (by decide), h 3 (by decide)]

/-- A `send_cmd_rsp` in a buffer of zeros: the length, the bytes, and the zeros behind them. -/
theorem read_response {rsp : Mem} {size rspLen : UInt32} (hzero : ∀ i < rspLen.toNat, rsp i = 0) {bs : List UInt8}
    (hlen : bs.length = size.toNat) (hfits : 4 + size.toNat ≤ rspLen.toNat) :
    ((rsp.writeU32 0 size).write 4 bs).read 0 rspLen.toNat =
      Mem.bytesOfU32 size ++ bs ++ List.replicate (rspLen.toNat - (4 + size.toNat)) 0 := by
  obtain ⟨k, hk⟩ : ∃ k, rspLen.toNat = 4 + size.toNat + k := ⟨rspLen.toNat - (4 + size.toNat), by omega⟩
  have hhead : ((rsp.writeU32 0 size).write 4 bs).read 0 4 = Mem.bytesOfU32 size := by
    have hcongr : ((rsp.writeU32 0 size).write 4 bs).read 0 4 = (rsp.writeU32 0 size).read 0 4 := by
      refine Mem.read_congr fun i hi => ?_
      simp [Mem.write, show ¬4 ≤ i by omega]
    rw [hcongr]
    exact Mem.read_write rsp 0 (Mem.bytesOfU32 size)
  have hbody : ((rsp.writeU32 0 size).write 4 bs).read 4 size.toNat = bs := by
    rw [← hlen]
    exact Mem.read_write _ 4 bs
  have hrest : ((rsp.writeU32 0 size).write 4 bs).read (4 + size.toNat) k = List.replicate k 0 := by
    refine List.ext_getElem (by simp) fun i hi _ => ?_
    rw [Mem.length_read] at hi
    have hpast : bs[4 + size.toNat + i - 4]? = none := List.getElem?_eq_none (by omega)
    have hbehind : (Mem.bytesOfU32 size)[4 + size.toNat + i]? = none := List.getElem?_eq_none (by simp; omega)
    rw [Mem.getElem_read, List.getElem_replicate]
    simp only [Mem.writeU32, Mem.write, Nat.zero_le, if_true, Nat.sub_zero, hbehind, Option.getD_none, hpast]
    rw [if_pos (by omega), hzero _ (by omega)]
  rw [hk, Nat.add_sub_cancel_left, Mem.read_add, Mem.read_add, Nat.zero_add, Nat.zero_add, hhead, hbody, hrest]

/-- What the trusted application is sent for a call. -/
def transmitted (events : List TeeEvent) : List (List UInt8) :=
  events.filterMap fun e => match e with
    | .invokeCommand _ input _ _ => some input
    | _ => none

/-- An exchange sends the command once, or not at all when a call before it fails. -/
theorem transmitted_sendExchange (t : TeeAnswers) (cmd : Mem) (rspLen : UInt32) :
    (transmitted (sendExchange t cmd rspLen).2 = [] ∨ transmitted (sendExchange t cmd rspLen).2 = [cmd.read 4 (embeddedLen cmd)]) ∧
      (t.result = teecSuccess → transmitted (sendExchange t cmd rspLen).2 = [cmd.read 4 (embeddedLen cmd)]) := by
  have hs := result_eq_success_iff t
  have hexit : ExchangeExit t _ _ _ _ _ _ (sendExchange t cmd rspLen) := exchange_exit ..
  generalize sendExchange t cmd rspLen = r at hexit ⊢
  cases hexit with
  | noContext h => exact ⟨Or.inl (by simp [transmitted]), fun hok => absurd (hs.1 hok).1 h⟩
  | noSession hi h => exact ⟨Or.inl (by simp [transmitted]), fun hok => absurd (hs.1 hok).2.1 h⟩
  | noInput hi ho h => exact ⟨Or.inl (by simp [transmitted]), fun hok => absurd (hs.1 hok).2.2.1 h⟩
  | noOutput hi ho ha h => exact ⟨Or.inl (by simp [transmitted]), fun hok => absurd (hs.1 hok).2.2.2.1 h⟩
  | notInvoked hi ho ha hao h => exact ⟨Or.inr (by simp [transmitted]), fun hok => absurd (hs.1 hok).2.2.2.2 h⟩
  | completed h => exact ⟨Or.inr (by simp [transmitted]), fun _ => by simp [transmitted]⟩

/-- What the caller finds behind its output pointer when the call has not failed. -/
def responseOf (t : TeeAnswers) (rspLen : UInt32) : List UInt8 :=
  if t.result = teecSuccess then
    Mem.bytesOfU32 t.outSize ++ t.outBuffer.read 0 t.outSize.toNat ++ List.replicate (rspLen.toNat - (4 + t.outSize.toNat)) 0
  else
    zeros rspLen

/-- A `send_cmd` that asks for the CPLC. -/
def askForCplc : Mem := Mem.write (fun _ => 0xff) 0 [5, 0, 0, 0, 0x80, 0xca, 0x9f, 0x7f, 0]

end EseManager
