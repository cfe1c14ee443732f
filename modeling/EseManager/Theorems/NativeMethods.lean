import EseManager.Lemmas.Jni

/-!
# What Java receives

The array of `native_eseGetCplc` and the verdict of `native_eseValidateChipLegality`, through the wrappers, both daemons, the codec of the
parcels and the TEE client.
-/

namespace EseManager

open Ipc Parcel

/-- The array that Java receives: nothing when `powerOn` fails or the TEE fails with a code up to `0x80000000`, the response when every
TEE call succeeds, and a hundred zeros when the TEE fails with any other code. -/
def cplcReceived (on : Int32) (t : TeeAnswers) (newByteArray : UInt32 → Bool) : Option (List UInt8) :=
  if on < 0 then none
  else if t.result = teecSuccess then
    if newByteArray t.outSize = true then some (t.outBuffer.read 0 t.outSize.toNat) else none
  else if t.result ≤ 0x80000000 then none
  else if newByteArray 100 = true then some (List.replicate 100 0) else none

/-- The first bytes of a CPLC that the verdict looks at. -/
def Genuine (array : List UInt8) : Prop := 47 ≤ array.length ∧ array[3]? = some 0x47 ∧ array[4]? = some 0x90

/-- The response of the trusted application, read from a buffer that it fits. -/
theorem read_received {t : TeeAnswers} (hfits : t.outSize ≤ 100) {buf : Mem}
    (hbuf : ∀ i < 100, buf i = if t.result = teecSuccess ∧ i < t.outSize.toNat then t.outBuffer i else 0)
    (hok : t.result = teecSuccess) : buf.read 0 t.outSize.toNat = t.outBuffer.read 0 t.outSize.toNat := by
  have hle : t.outSize.toNat ≤ 100 := UInt32.le_iff_toNat_le.1 hfits
  refine List.ext_getElem (by simp) fun i hi _ => ?_
  rw [Mem.length_read] at hi
  rw [Mem.getElem_read, Mem.getElem_read, Nat.zero_add, hbuf i (by omega), if_pos ⟨hok, hi⟩]

/-- The buffer of a failure that is not reported. -/
theorem read_unreported {t : TeeAnswers} {buf : Mem}
    (hbuf : ∀ i < 100, buf i = if t.result = teecSuccess ∧ i < t.outSize.toNat then t.outBuffer i else 0)
    (hok : t.result ≠ teecSuccess) : buf.read 0 100 = List.replicate 100 0 := by
  refine List.ext_getElem (by simp) fun i hi _ => ?_
  rw [Mem.length_read] at hi
  rw [Mem.getElem_read, Nat.zero_add, hbuf i hi, if_neg fun h => hok h.1, List.getElem_replicate]

/-- The verdict on a buffer and its length is that on the array they give. -/
theorem verdict_iff_genuine (buf : Mem) (len : UInt32) :
    (if len < 47 then false else if buf 3 ≠ 0x47 ∨ buf 4 ≠ 0x90 then false else true) = true ↔
      Genuine (buf.read 0 len.toNat) := by
  unfold Genuine
  rw [Mem.length_read]
  by_cases hlen : len < 47
  · have hlt : len.toNat < 47 := UInt32.lt_iff_toNat_lt.1 hlen
    simp only [hlen, if_true, Bool.false_eq_true, false_iff]
    omega
  · have hge : 47 ≤ len.toNat := UInt32.le_iff_toNat_le.1 (UInt32.not_lt.1 hlen)
    have hget : ∀ i < 47, (buf.read 0 len.toNat)[i]? = some (buf i) := by
      intro i hi
      rw [List.getElem?_eq_getElem (by rw [Mem.length_read]; omega), Mem.getElem_read, Nat.zero_add]
    simp [hlen, hge, hget]

section

variable {mem : Allocator} (hmem : ∀ n, mem.grows n = true) (impl : PowerMethod → Int32) (powerBase : BBinder Binder)
  (t : TeeAnswers) (hfits : t.result = teecSuccess → t.outSize ≤ 100) (fp : FpClient) (uid : Int) (myParam : Int32)
  (managerBase : BBinder Empty) (cb : Binder) (stack : Mem) (newByteArray : UInt32 → Bool)
include hmem hfits

/-- The value of `native_eseGetCplc`. -/
theorem nativeEseGetCplc_value :
    (nativeEseGetCplc (connected mem impl powerBase (eseManagerService t fp uid myParam) managerBase cb stack newByteArray)).value =
      some (cplcReceived (impl (.powerOn (some cb))) t newByteArray) := by
  obtain ⟨buf, hbuf, hvalue, -⟩ := withCplc_eq hmem impl powerBase t fp uid myParam managerBase cb stack newByteArray
    (none : Option (List UInt8)) fun rCplc len => if newByteArray len = true then some (rCplc.read 0 len.toNat) else none
  refine hvalue.trans (congrArg some ?_)
  unfold cplcReceived
  by_cases hok : t.result = teecSuccess
  · simp only [hok, if_true, read_received (hfits hok) hbuf hok]
  · simp only [hok, if_false, read_unreported hbuf hok, show (100 : UInt32).toNat = 100 from rfl]

/-- The verdict of `native_eseValidateChipLegality` is that on the array that `native_eseGetCplc` gives. -/
theorem nativeEseValidateChipLegality_value (hnew : ∀ len, newByteArray len = true) : ∃ verdict,
    (nativeEseValidateChipLegality
      (connected mem impl powerBase (eseManagerService t fp uid myParam) managerBase cb stack newByteArray)).value = some verdict ∧
    (verdict = true ↔ ∃ array, cplcReceived (impl (.powerOn (some cb))) t newByteArray = some array ∧ Genuine array) := by
  obtain ⟨buf, hbuf, hvalue, -⟩ := withCplc_eq hmem impl powerBase t fp uid myParam managerBase cb stack newByteArray false
    fun rCplc len => if len < 47 then false else if rCplc 3 ≠ 0x47 ∨ rCplc 4 ≠ 0x90 then false else true
  refine ⟨_, hvalue, ?_⟩
  unfold cplcReceived
  by_cases hon : impl (.powerOn (some cb)) < 0
  · simp [hon]
  by_cases hok : t.result = teecSuccess
  · simp only [hon, hok, if_true, if_false, hnew, Option.some.injEq, exists_eq_left']
    rw [← read_received (hfits hok) hbuf hok]
    exact verdict_iff_genuine buf t.outSize
  · by_cases hle : t.result ≤ 0x80000000
    · simp [hon, hok, hle]
    · simp only [hon, hok, hle, if_true, if_false, hnew, Option.some.injEq, exists_eq_left']
      rw [← read_unreported hbuf hok]
      exact verdict_iff_genuine buf 100

end

/-- The trusted application fails with `TEEC_ERROR_GENERIC`. -/
def unreportedFailure : TeeAnswers := ⟨0, 0, 0, 0, teecErrorGeneric, 0, fun _ => 0⟩

end EseManager
