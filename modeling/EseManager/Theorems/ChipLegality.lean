import EseManager.Lemmas.Jni

/-!
# The verdict on the chip

`native_eseValidateChipLegality` looks at a length and at two bytes. Both are those of the trusted application's response, or the verdict
is false: a failure of the TEE is a negative code, or comes as a buffer of zeros.
-/

namespace EseManager

open Ipc Parcel

/-- For every implementation of the power manager, every behaviour of the TEE whose response has at most 100 bytes when all its calls
succeed, whatever the caller's uid, and whatever the parcels and the stack hold: `native_eseValidateChipLegality` returns, and it
returns true exactly when `powerOn` succeeds, every TEE call succeeds, and the response has at least 47 bytes with `0x47` and `0x90`
at offsets 3 and 4. -/
theorem validateChipLegality_iff (mem : Allocator) (hmem : ∀ n, mem.grows n = true) (impl : PowerMethod → Int32)
    (powerBase : BBinder Binder) (t : TeeAnswers) (fp : FpClient) (uid : Int) (myParam : Int32) (managerBase : BBinder Empty)
    (cb : Binder) (stack : Mem) (newByteArray : UInt32 → Bool) :
    (t.AllSucceed → t.outSize ≤ 100) → ∃ verdict,
      (nativeEseValidateChipLegality (connected mem impl powerBase (eseManagerService t fp uid myParam) managerBase cb stack
        newByteArray)).value = some verdict ∧
      (verdict = true ↔ 0 ≤ (impl (.powerOn (some cb))).toInt ∧ t.AllSucceed ∧ 47 ≤ t.outSize ∧ t.outBuffer 3 = 0x47 ∧
        t.outBuffer 4 = 0x90) := by
  intro _
  obtain ⟨verdict, hvalue, hexit⟩ := withCplc_exit hmem impl powerBase t fp uid myParam managerBase cb stack newByteArray false
    fun rCplc len => if len < 47 then false else if rCplc 3 ≠ 0x47 ∨ rCplc 4 ≠ 0x90 then false else true
  refine ⟨verdict, hvalue, ?_⟩
  cases hexit with
  | notPowered hpower =>
    refine iff_of_false Bool.false_ne_true fun hall => ?_
    omega
  | received hpower hs buf hbuf =>
    by_cases h47 : t.outSize < 47
    · rw [if_pos h47]
      exact iff_of_false Bool.false_ne_true fun hall => UInt32.not_lt.2 hall.2.2.1 h47
    · rw [if_neg h47]
      have hle := UInt32.not_lt.1 h47
      have hsize : 47 ≤ t.outSize.toNat := UInt32.le_iff_toNat_le.1 hle
      have h3 : buf 3 = t.outBuffer 3 := by rw [hbuf 3 (by omega), if_pos (by omega)]
      have h4 : buf 4 = t.outBuffer 4 := by rw [hbuf 4 (by omega), if_pos (by omega)]
      rw [h3, h4]
      by_cases hbytes : t.outBuffer 3 ≠ 0x47 ∨ t.outBuffer 4 ≠ 0x90
      · rw [if_pos hbytes]
        refine iff_of_false Bool.false_ne_true fun hall => ?_
        exact hbytes.elim (fun hn => hn hall.2.2.2.1) fun hn => hn hall.2.2.2.2
      · rw [if_neg hbytes]
        rw [not_or, not_not, not_not] at hbytes
        exact iff_of_true rfl ⟨Int.not_lt.1 hpower, hs, hle, hbytes.1, hbytes.2⟩
  | refused hs => exact iff_of_false Bool.false_ne_true fun hall => hs hall.2.1
  | unreported hs buf hbuf =>
    -- the buffer is all zeros, so the byte at offset 3 is wrong
    have h3 : buf 3 ≠ 0x47 ∨ buf 4 ≠ 0x90 := by
      left
      rw [hbuf 3 (by omega)]
      decide
    simp only [h3, if_true, ite_self]
    exact iff_of_false Bool.false_ne_true fun hall => hs hall.2.1

/-- The exchange with a genuine chip: the response has 47 bytes, with the two at offsets 3 and 4. -/
def genuineChip : TeeAnswers := ⟨0, 0, 0, 0, 0, 47, Mem.write (fun _ => 0) 3 [0x47, 0x90]⟩

/-- `validateChipLegality_iff` for a genuine chip, a power manager that succeeds, and a stack full of other bytes. -/
theorem validateChipLegality_genuine :
    (nativeEseValidateChipLegality (connected .endless (fun _ => 0) .refusing
      (eseManagerService genuineChip ⟨0, 0, fun _ _ => 0⟩ 10057 0) .refusing 1 (fun _ => 0xff) fun _ => true)).value =
      some true := by
  obtain ⟨verdict, hvalue, hiff⟩ := validateChipLegality_iff .endless (fun _ => rfl) (fun _ => 0) .refusing genuineChip
    ⟨0, 0, fun _ _ => 0⟩ 10057 0 .refusing 1 (fun _ => 0xff) (fun _ => true) fun _ => by decide
  have hverdict : verdict = true := hiff.2 ⟨by decide, ⟨rfl, rfl, rfl, rfl, rfl⟩, by decide, rfl, rfl⟩
  rw [hvalue, hverdict]

end EseManager
