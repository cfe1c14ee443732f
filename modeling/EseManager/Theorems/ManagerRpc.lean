import EseManager.Lemmas.ManagerRpc

/-!
# Calls to the manager service arrive as they were made

Whatever the lengths are, multiples of four or not, the service sees what its caller has sent, and the caller what the service has
answered.
-/

namespace EseManager

open Ipc Parcel

/-- The calls through the proxies, when parcels get their memory. `sendCommand` gives the service the command and both lengths, and a
buffer of zeros for the response; when the service succeeds, what it has left there is what the caller finds. `sendCommandEx` gives
it the command id and the buffer, and returns what it returns. `getEseCplc` gives it a buffer of zeros; when it succeeds, its length
and its buffer are the caller's, and when it fails the caller has its code and the length it asked with. -/
theorem managerRpc_transparent (mem : Allocator) (service : ManagerService) (base : BBinder Empty) :
    (∀ (cmd rsp : Mem) (cmdLen rspLen : UInt32), 0 < cmdLen → 0 < rspLen → Allocates mem cmdLen.toNat →
      Allocates mem rspLen.toNat →
        let r := bpSendCommand mem (managerOnTransact mem service base) (some cmd) cmdLen (some rsp) rspLen
        let sent := some (block (cmd.read 0 cmdLen.toNat))
        let o := service.sendCommand (mem.at sent) cmdLen (mem.at (some (block (zeros rspLen)))) rspLen
        r.events = [.clear (some (room mem rspLen.toNat)) rspLen,
            .sendCommand sent cmdLen (some (block (zeros rspLen))) rspLen] ∧
          (o.status = noError → r.value = some noError ∧ r.buf = rsp.write 0 (o.buf.read 0 rspLen.toNat))) ∧
      (∀ (cmdId : UInt32) (buffer : Mem) (len : UInt32), Allocates mem len.toNat →
        let r := bpSendCommandEx mem (managerOnTransact mem service base) cmdId buffer len
        let sent := some (block (buffer.read 0 len.toNat))
        r = ((service.sendCommandEx cmdId (mem.at sent) len).toInt, [.sendCommandEx cmdId sent len])) ∧
      ∀ (buf : Mem) (cplcLen : UInt32), 0 < cplcLen → Allocates mem cplcLen.toNat →
        let r := bpGetEseCplc mem (managerOnTransact mem service base) (some buf) cplcLen
        let o := service.getEseCplc (mem.at (some (block (zeros cplcLen)))) cplcLen
        r.1.events = [.clear (some (room mem cplcLen.toNat)) cplcLen, .getEseCplc (some (block (zeros cplcLen))) cplcLen] ∧
          (o.1.status = noError → o.2 ≤ cplcLen →
            r.1.value = some noError ∧ r.2 = o.2 ∧ r.1.buf = buf.write 0 (o.1.buf.read 0 cplcLen.toNat)) ∧
          (o.1.status < 0 → r.1.value = some o.1.status ∧ r.2 = cplcLen) := by
  refine ⟨fun cmd rsp cmdLen rspLen hcmd hrsp hc hr => ?_, fun cmdId buffer len h => ?_, fun buf cplcLen hpos h => ?_⟩
  · intro r sent o
    have heq : r = ⟨some (if o.status < 0 then o.status else noError),
        if o.status < 0 then rsp else rsp.write 0 (o.buf.read 0 rspLen.toNat), _⟩ :=
      bpSendCommand_eq service base cmd rsp hcmd hrsp hc hr
    refine ⟨by rw [heq], fun hok => ?_⟩
    have hneg : ¬o.status < 0 := by
      rw [hok]
      decide
    rw [if_neg hneg, if_neg hneg] at heq
    exact ⟨by rw [heq], by rw [heq]⟩
  · exact bpSendCommandEx_eq service base cmdId buffer h
  · intro r o
    have heq : r = (⟨some (if o.1.status < 0 then o.1.status else noError),
        buf.write 0 (if o.1.status < 0 then zeros cplcLen else o.1.buf.read 0 cplcLen.toNat), _⟩,
        if o.1.status < 0 then cplcLen else if o.1.status = noError then o.2 else 0) :=
      bpGetEseCplc_eq service base buf hpos h
    refine ⟨by rw [heq], fun hok _ => ?_, fun hneg => ?_⟩
    · have hneg : ¬o.1.status < 0 := by
        rw [hok]
        decide
      rw [if_neg hneg, if_neg hneg, if_neg hneg, if_pos hok] at heq
      exact ⟨by rw [heq], by rw [heq], by rw [heq]⟩
    · rw [if_pos hneg, if_pos hneg, if_pos hneg] at heq
      exact ⟨by rw [heq], by rw [heq]⟩

/-- The answers of a TEE whose every call succeeds, with a response of two bytes. -/
def okResponse : TeeAnswers := ⟨0, 0, 0, 0, 0, 2, fun i => if i = 0 then 0x90 else 0⟩

/-- `managerRpc_transparent` for a system caller, a command of five bytes, and a response that fits. -/
theorem managerRpc_transparent_system :
    let service := eseManagerService okResponse ⟨0, 0, fun _ _ => 0⟩ 1000 0
    let remote := managerOnTransact .endless service .refusing
    (bpSendCommand .endless remote (some fun _ => 1) 5 (some fun _ => 9) 6).value = some noError ∧
      (bpSendCommandEx .endless remote 1094 (fun _ => 7) 3).1 = 0 ∧
      (bpGetEseCplc .endless remote (some fun _ => 9) 100).2 = 2 := by
  intro service remote
  obtain ⟨hsend, hex, hcplc⟩ := managerRpc_transparent .endless service .refusing
  have hgrows : ∀ n, Allocator.endless.grows n = true := fun _ => rfl
  refine ⟨?_, ?_, ?_⟩
  · exact ((hsend (fun _ => 1) (fun _ => 9) 5 6 (by decide) (by decide) ⟨by decide, hgrows⟩ ⟨by decide, hgrows⟩).2 rfl).1
  · exact congrArg Prod.fst (hex 1094 (fun _ => 7) 3 ⟨by decide, hgrows⟩)
  · exact ((hcplc (fun _ => 9) 100 (by decide) ⟨by decide, hgrows⟩).2.1 rfl (by decide)).2.1

end EseManager
