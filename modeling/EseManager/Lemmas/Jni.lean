import EseManager.Jni
import EseManager.Lemmas.ManagerRpc
import EseManager.Lemmas.PowerRpc
import EseManager.Lemmas.Tee

/-!
# What reaches the native methods

The buffer and the length that `ese_getEseCplc` leaves to a native method have come through five layers, each of which zeroes, pads
or copies the buffer and passes the length on. `withCplc_exit` says what they are: the response of the trusted application when
every TEE call succeeds, and otherwise a negative code or a buffer of zeros.
-/

namespace EseManager

open Ipc Parcel

/-! ## What the service leaves in its buffer -/

/-- What the service makes of a buffer, by the result of the TEE calls. -/
theorem serviceGetEseCplc_eq (t : TeeAnswers) (buf : Mem) {cplcLen : UInt32} (hl : cplcLen ≠ 0) :
    serviceGetEseCplc t (some buf) cplcLen =
      if t.result = teecSuccess then (⟨noError, buf.write 0 (t.outBuffer.read 0 t.outSize.toNat)⟩, t.outSize)
      else if t.result ≤ 0x80000000 then (⟨(caReturn t.result).toInt, buf⟩, cplcLen)
      else (⟨noError, buf⟩, cplcLen) := by
  have hresult := exchange_result t [] 5 [] getCplcCmd cplcLen
    [.loadShm .output 0 t.outSize.toNat, .storeRsp 0 (t.outBuffer.read 0 t.outSize.toNat)]
  have hneg := caReturn_neg_iff t.result
  by_cases hok : t.result = teecSuccess
  · have hstatus : caStatus (caReturn teecSuccess) = noError := by decide
    simp [serviceGetEseCplc, caGetEseCplc, hl, hresult, hok, hstatus]
  · by_cases hle : t.result ≤ 0x80000000
    · have hlt := hneg.2 ⟨hok, hle⟩
      simp [serviceGetEseCplc, caGetEseCplc, hl, hresult, hok, hle, caStatus, hlt]
    · have hlt : ¬caReturn t.result < 0 := fun h => hle (hneg.1 h).2
      simp [serviceGetEseCplc, caGetEseCplc, hl, hresult, hok, hle, caStatus, hlt]

/-! ## What the native method receives -/

/-- Every byte of the buffer that the stub gives the service is zero. -/
theorem at_zeros (mem : Allocator) : ∃ buf, mem.at (some (block (zeros 100))) = some buf ∧ ∀ i < 100, buf i = 0 := by
  have hpad : padded (100 : UInt32).toNat = 100 := rfl
  rw [block_zeros, hpad]
  refine ⟨_, rfl, fun i hi => ?_⟩
  rw [Mem.write_zero_of_lt _ (by simpa using hi), List.getElem_replicate]

/-- The body of the native methods, for a process whose calls return. -/
theorem withCplc_of_returned {α : Type} {c : NativeClient} {on off : Int32} {mOn mOff : PowerMethod}
    (hon : c.powerOn = ⟨on.toInt, [mOn]⟩) (hoff : c.powerOff = ⟨off.toInt, [mOff]⟩) {v : Int}
    (hv : (c.eseGetEseCplc c.rCplc 100).1.value = some v) (failed : α) (done : Mem → UInt32 → α) :
    (withCplc c failed done).value = some (if on < 0 ∨ v < 0 then failed
        else done (c.eseGetEseCplc c.rCplc 100).1.buf (c.eseGetEseCplc c.rCplc 100).2) ∧
      (withCplc c failed done).calls = if on < 0 then [mOn] else [mOn, mOff] := by
  have hlt : on.toInt < 0 ↔ on < 0 := by
    rw [Int32.lt_iff_toInt_lt]
    rfl
  unfold withCplc
  rw [hon]
  by_cases hneg : on < 0
  · simp [hlt.2 hneg, hneg]
  · have hpos : ¬on.toInt < 0 := fun h => hneg (hlt.1 h)
    by_cases hv0 : v < 0
    · simp [hpos, hneg, hv, hv0, hoff]
    · simp [hpos, hneg, hv, hv0, hoff]

section

variable {mem : Allocator} (hmem : ∀ n, mem.grows n = true) (impl : PowerMethod → Int32) (powerBase : BBinder Binder)
  (t : TeeAnswers) (fp : FpClient) (uid : Int) (myParam : Int32) (managerBase : BBinder Empty) (cb : Binder) (stack : Mem)
  (newByteArray : UInt32 → Bool)
include hmem

/-- `powerOn` through the proxy and the stub. -/
theorem connected_powerOn :
    (connected mem impl powerBase (eseManagerService t fp uid myParam) managerBase cb stack newByteArray).powerOn =
      ⟨(impl (.powerOn (some cb))).toInt, [.powerOn (some cb)]⟩ :=
  proxy_of_grows hmem impl powerBase (m := .powerOn (some cb)) nofun

/-- `powerOff` through them. -/
theorem connected_powerOff :
    (connected mem impl powerBase (eseManagerService t fp uid myParam) managerBase cb stack newByteArray).powerOff =
      ⟨(impl .powerOff).toInt, [.powerOff]⟩ :=
  proxy_of_grows hmem impl powerBase (m := .powerOff) nofun

/-- The buffer and the length, as the service has left them in a buffer of zeros. -/
theorem connected_getEseCplc : ∃ buf : Mem, (∀ i < 100, buf i = 0) ∧
    let c := connected mem impl powerBase (eseManagerService t fp uid myParam) managerBase cb stack newByteArray
    let o := serviceGetEseCplc t (some buf) 100
    let r := c.eseGetEseCplc c.rCplc 100
    r.1.value = some (if o.1.status < 0 then o.1.status else noError) ∧
      (¬o.1.status < 0 → ∀ i < 100, r.1.buf i = o.1.buf i) ∧
      r.2 = if o.1.status < 0 then 100 else if o.1.status = noError then o.2 else 0 := by
  obtain ⟨buf, hat, hzero⟩ := at_zeros mem
  refine ⟨buf, hzero, ?_⟩
  intro c o r
  have heq := bpGetEseCplc_eq (eseManagerService t fp uid myParam) managerBase c.rCplc (by decide : 0 < (100 : UInt32))
    ⟨by decide, hmem⟩
  rw [hat] at heq
  have hr : r = (⟨some (if o.1.status < 0 then o.1.status else noError),
      c.rCplc.write 0 (if o.1.status < 0 then zeros 100 else o.1.buf.read 0 100), _⟩,
      if o.1.status < 0 then 100 else if o.1.status = noError then o.2 else 0) := heq
  refine ⟨by rw [hr], fun hneg i hi => ?_, by rw [hr]⟩
  have hbuf : r.1.buf = c.rCplc.write 0 (if o.1.status < 0 then zeros 100 else o.1.buf.read 0 100) := by rw [hr]
  rw [if_neg hneg] at hbuf
  rw [hbuf, Mem.write_zero_of_lt _ (by simpa using hi), Mem.getElem_read, Nat.zero_add]

/-- What a native method does: with the eSE on, it makes its value of what the service has left, and in any case powers off again. -/
theorem withCplc_eq {α : Type} (failed : α) (done : Mem → UInt32 → α) : ∃ buf : Mem,
    (∀ i < 100, buf i = if t.result = teecSuccess ∧ i < t.outSize.toNat then t.outBuffer i else 0) ∧
    let r := withCplc (connected mem impl powerBase (eseManagerService t fp uid myParam) managerBase cb stack newByteArray) failed done
    r.value = some (
      if impl (.powerOn (some cb)) < 0 then failed
      else if t.result = teecSuccess then done buf t.outSize
      else if t.result ≤ 0x80000000 then failed
      else done buf 100) ∧
    r.calls = if impl (.powerOn (some cb)) < 0 then [.powerOn (some cb)] else [.powerOn (some cb), .powerOff] := by
  have hon := connected_powerOn hmem impl powerBase t fp uid myParam managerBase cb stack newByteArray
  have hoff := connected_powerOff hmem impl powerBase t fp uid myParam managerBase cb stack newByteArray
  obtain ⟨buf, hzero, hvalue, hbuf, hlen⟩ :=
    connected_getEseCplc hmem impl powerBase t fp uid myParam managerBase cb stack newByteArray
  generalize connected mem impl powerBase (eseManagerService t fp uid myParam) managerBase cb stack newByteArray = c
    at hon hoff hvalue hbuf hlen ⊢
  have hreturned := fun v hv => withCplc_of_returned hon hoff (v := v) hv failed done
  generalize c.eseGetEseCplc c.rCplc 100 = r at hvalue hbuf hlen hreturned
  rw [serviceGetEseCplc_eq t buf (by decide : (100 : UInt32) ≠ 0)] at hvalue hbuf hlen
  by_cases hok : t.result = teecSuccess
  · simp only [hok, if_true, noError_not_neg, if_false, not_false_eq_true, true_implies] at hvalue hbuf hlen
    refine ⟨r.1.buf, fun i hi => ?_, ?_, ?_⟩
    · rw [hbuf i hi]
      by_cases hsize : i < t.outSize.toNat
      · rw [if_pos ⟨hok, hsize⟩, Mem.write_zero_of_lt _ (by simpa using hsize), Mem.getElem_read, Nat.zero_add]
      · rw [if_neg fun h => hsize h.2, Mem.write_zero_of_le _ (by simpa using hsize), hzero i hi]
    · rw [(hreturned _ hvalue).1]
      simp [hok, hlen, noError_not_neg]
    · exact (hreturned _ hvalue).2
  · by_cases hle : t.result ≤ 0x80000000
    · have hneg : (caReturn t.result).toInt < 0 := by
        have hlt := Int32.lt_iff_toInt_lt.1 ((caReturn_neg_iff t.result).2 ⟨hok, hle⟩)
        exact hlt
      simp only [hok, hle, if_true, if_false, hneg] at hvalue
      refine ⟨fun _ => 0, fun i _ => by simp [hok], ?_, ?_⟩
      · rw [(hreturned _ hvalue).1]
        simp [hok, hle, hneg]
      · exact (hreturned _ hvalue).2
    · simp only [hok, hle, if_true, if_false, noError_not_neg, not_false_eq_true, true_implies] at hvalue hbuf hlen
      refine ⟨r.1.buf, fun i hi => ?_, ?_, ?_⟩
      · rw [hbuf i hi, hzero i hi]
        simp [hok]
      · rw [(hreturned _ hvalue).1]
        simp [hok, hle, hlen, noError_not_neg]
      · exact (hreturned _ hvalue).2

end

/-- The ways out of a native method, by what it receives: nothing when `powerOn` fails; the response of the trusted application when
every TEE call succeeds; and otherwise a negative code, or a buffer of zeros. -/
inductive CplcExit {α : Type} (on : Int32) (t : TeeAnswers) (failed : α) (done : Mem → UInt32 → α) : α → Prop where
  | notPowered (hpower : on.toInt < 0) : CplcExit on t failed done failed
  | received (hpower : ¬on.toInt < 0) (hs : t.AllSucceed) (buf : Mem)
      (hbuf : ∀ i < 100, buf i = if i < t.outSize.toNat then t.outBuffer i else 0) : CplcExit on t failed done (done buf t.outSize)
  | refused (hs : ¬t.AllSucceed) : CplcExit on t failed done failed
  | unreported (hs : ¬t.AllSucceed) (buf : Mem) (hbuf : ∀ i < 100, buf i = 0) : CplcExit on t failed done (done buf 100)

theorem withCplc_exit {mem : Allocator} (hmem : ∀ n, mem.grows n = true) (impl : PowerMethod → Int32)
    (powerBase : BBinder Binder) (t : TeeAnswers) (fp : FpClient) (uid : Int) (myParam : Int32) (managerBase : BBinder Empty)
    (cb : Binder) (stack : Mem) (newByteArray : UInt32 → Bool) {α : Type} (failed : α) (done : Mem → UInt32 → α) :
    ∃ v, (withCplc (connected mem impl powerBase (eseManagerService t fp uid myParam) managerBase cb stack newByteArray) failed
        done).value = some v ∧ CplcExit (impl (.powerOn (some cb))) t failed done v := by
  obtain ⟨buf, hbuf, hvalue, -⟩ :=
    withCplc_eq hmem impl powerBase t fp uid myParam managerBase cb stack newByteArray failed done
  refine ⟨_, hvalue, ?_⟩
  have hlt : (impl (.powerOn (some cb))).toInt < 0 ↔ impl (.powerOn (some cb)) < 0 := by
    rw [Int32.lt_iff_toInt_lt]
    rfl
  by_cases hpower : impl (.powerOn (some cb)) < 0
  · rw [if_pos hpower]
    exact .notPowered (hlt.2 hpower)
  rw [if_neg hpower]
  by_cases hok : t.result = teecSuccess
  · rw [if_pos hok]
    refine .received (fun h => hpower (hlt.1 h)) ((result_eq_success_iff t).1 hok) buf fun i hi => ?_
    rw [hbuf i hi]
    simp only [hok, true_and]
  · have hs : ¬t.AllSucceed := fun h => hok ((result_eq_success_iff t).2 h)
    rw [if_neg hok]
    by_cases hle : t.result ≤ 0x80000000
    · rw [if_pos hle]
      exact .refused hs
    · rw [if_neg hle]
      refine .unreported hs buf fun i hi => ?_
      rw [hbuf i hi, if_neg fun h => hok h.1]

end EseManager
