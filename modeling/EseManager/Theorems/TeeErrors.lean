import EseManager.Lemmas.Tee

/-!
# Errors of the TEE on their way up

A TEE result is an unsigned 32-bit code. The client negates it into an `int32_t`, and the service takes every result that is
not negative for success. The sign survives for the codes up to `0x80000000`; a larger one, such as every code of the class
`0xFFFFxxxx`, comes out positive. `tee_failures_reported_iff` says exactly which exchanges are reported as they went.
-/

namespace EseManager

/-- The context or the session cannot be opened, or the first code of a later failure is at most `0x80000000`. -/
def TeeAnswers.FailureFits (t : TeeAnswers) : Prop :=
  t.initializeContext ≠ teecSuccess ∨ t.openSession ≠ teecSuccess ∨ t.firstFailure ≤ 0x80000000

/-- A result of the client says how the exchange went: zero for success, a negative value for every failure. -/
def Reports (t : TeeAnswers) (ret : Int32) : Prop :=
  (ret = 0 ↔ t.AllSucceed) ∧ (¬t.AllSucceed → ret < 0)

/-- The result fits into the negative half of `int32_t` exactly when the first failure does: the two codes of `init` do. -/
theorem result_le_iff (t : TeeAnswers) : t.result ≤ 0x80000000 ↔ t.FailureFits := by
  unfold TeeAnswers.result TeeAnswers.FailureFits
  by_cases hi : t.initializeContext = teecSuccess
  · by_cases ho : t.openSession = teecSuccess
    · simp [hi, ho]
    · simp [hi, ho, openSessionFailed]
  · simp [hi, initContextFailed]

/-- The negated result says how the exchange went exactly when the failure fits. -/
theorem reports_caReturn_iff (t : TeeAnswers) : Reports t (caReturn t.result) ↔ t.FailureFits := by
  unfold Reports
  rw [caReturn_eq_zero_iff, result_eq_success_iff, caReturn_neg_iff, result_le_iff, ne_eq, result_eq_success_iff]
  constructor
  · rintro ⟨-, h⟩
    by_cases hs : t.AllSucceed
    · rw [← result_le_iff, (result_eq_success_iff t).2 hs]
      decide
    · exact (h hs).2
  · exact fun h => ⟨Iff.rfl, fun hs => ⟨hs, h⟩⟩

/-- The status made of the negated result is `NO_ERROR` exactly for success when the failure fits. -/
theorem caStatus_caReturn_iff {t : TeeAnswers} (h : t.FailureFits) :
    caStatus (caReturn t.result) = noError ↔ t.AllSucceed := by
  rw [caStatus_eq_noError_iff, caReturn_neg_iff, ne_eq, result_eq_success_iff, result_le_iff]
  constructor
  · intro hn
    by_contra hs
    exact hn ⟨hs, h⟩
  · exact fun hs hn => hn.1 hs

/-! ## Failures of the TEE are reported exactly when they fit -/

/-- For both functions of the client, called with valid arguments, and for both methods of the service (the second for an allowed
uid): the client returns zero exactly when all five calls succeed and a negative value otherwise, and the service returns
`NO_ERROR` exactly when they do, if and only if the context or session fails to open or the first later failure has a code of at
most `0x80000000`. -/
theorem tee_failures_reported_iff (t : TeeAnswers) (cmd rsp buf : Mem) (cmdLen rspLen cplcLen : UInt32) (uid : Int)
    (hc : cmdLen ≠ 0) (hr : rspLen ≠ 0) (hl : cplcLen ≠ 0) (hu : sendCommandAllowed uid = true) :
    (Reports t (caGetEseCplc t (some buf) cplcLen).1.ret ∧
      Reports t (caSendEseCommand t (some cmd) cmdLen (some rsp) rspLen).ret ∧
      ((serviceGetEseCplc t (some buf) cplcLen).1.status = noError ↔ t.AllSucceed) ∧
      ((serviceSendCommand t uid (some cmd) cmdLen (some rsp) rspLen).status = noError ↔ t.AllSucceed)) ↔
      t.FailureFits := by
  have hg := caGetEseCplc_ret t buf hl
  have hs := caSendEseCommand_ret t cmd rsp hc hr
  have hsg : (serviceGetEseCplc t (some buf) cplcLen).1.status = caStatus (caReturn t.result) := by
    simp [serviceGetEseCplc, hl, hg]
  have hss : (serviceSendCommand t uid (some cmd) cmdLen (some rsp) rspLen).status = caStatus (caReturn t.result) := by
    simp [serviceSendCommand, hu, hs]
  rw [hg, hs, hsg, hss, reports_caReturn_iff]
  constructor
  · exact fun h => h.1
  · exact fun h => ⟨h, h, caStatus_caReturn_iff h, caStatus_caReturn_iff h⟩

/-- An exchange in which everything succeeds but the command, which fails with `TEEC_ERROR_GENERIC`. -/
def genericFailure : TeeAnswers :=
  { initializeContext := 0, openSession := 0, allocateInput := 0, allocateOutput := 0,
    invokeCommand := teecErrorGeneric, outSize := 100, outBuffer := fun _ => 0 }

/-- The command fails with `TEEC_ERROR_GENERIC`, and `ca_getEseCplc` returns 65536, which the service takes for success. -/
theorem tee_generic_failure_taken_for_success :
    ¬genericFailure.AllSucceed ∧ (caGetEseCplc genericFailure (some fun _ => 0) 100).1.ret = 65536 ∧
      ¬Reports genericFailure (caGetEseCplc genericFailure (some fun _ => 0) 100).1.ret ∧
      (serviceGetEseCplc genericFailure (some fun _ => 0) 100).1.status = noError ∧
      (serviceSendCommand genericFailure 1000 (some fun _ => 0) 204 (some fun _ => 0) 204).status = noError := by
  have hns : ¬genericFailure.AllSucceed := by
    rintro ⟨-, -, -, -, h⟩
    exact absurd h (by decide)
  have hret : (caGetEseCplc genericFailure (some fun _ => 0) 100).1.ret = 65536 := by decide
  refine ⟨hns, hret, ?_, by decide, by decide⟩
  rintro ⟨-, h⟩
  have := h hns
  rw [hret] at this
  exact absurd this (by decide)

/-- An exchange that runs out of resources while allocating: the small code comes out negative. -/
theorem tee_resource_limit_reported :
    ({ genericFailure with allocateInput := 2 } : TeeAnswers).FailureFits ∧
      ((Reports { genericFailure with allocateInput := 2 }
          (caGetEseCplc { genericFailure with allocateInput := 2 } (some fun _ => 0) 100).1.ret ∧
        Reports { genericFailure with allocateInput := 2 }
          (caSendEseCommand { genericFailure with allocateInput := 2 } (some fun _ => 0) 204 (some fun _ => 0) 204).ret ∧
        ((serviceGetEseCplc { genericFailure with allocateInput := 2 } (some fun _ => 0) 100).1.status = noError ↔
          ({ genericFailure with allocateInput := 2 } : TeeAnswers).AllSucceed) ∧
        ((serviceSendCommand { genericFailure with allocateInput := 2 } 1000 (some fun _ => 0) 204 (some fun _ => 0)
            204).status = noError ↔ ({ genericFailure with allocateInput := 2 } : TeeAnswers).AllSucceed))) := by
  have hf : ({ genericFailure with allocateInput := 2 } : TeeAnswers).FailureFits := Or.inr (Or.inr (by decide))
  exact ⟨hf, (tee_failures_reported_iff _ _ _ _ 204 204 100 1000 (by decide) (by decide) (by decide) (by decide)).2 hf⟩

end EseManager
