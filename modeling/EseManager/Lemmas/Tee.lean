import EseManager.ManagerService
import Mathlib.Tactic.SplitIfs
import Mathlib.Tactic.ByContra

/-!
# What an exchange with the trusted application does

`exchange_exit` lists the ways out of an exchange, each with the value of `result` and the events; `exchange_result` is the value
alone. Then what becomes of that value: the client negates it into an `int32_t`, whose sign the service looks at.
-/

namespace EseManager

/-- All five calls of the exchange return `TEEC_SUCCESS`. -/
def TeeAnswers.AllSucceed (t : TeeAnswers) : Prop :=
  t.initializeContext = teecSuccess ∧ t.openSession = teecSuccess ∧ t.allocateInput = teecSuccess ∧
    t.allocateOutput = teecSuccess ∧ t.invokeCommand = teecSuccess

/-- The first code but success that an allocation or the command returns, or success. -/
def TeeAnswers.firstFailure (t : TeeAnswers) : TeecResult :=
  if t.allocateInput ≠ teecSuccess then t.allocateInput
  else if t.allocateOutput ≠ teecSuccess then t.allocateOutput
  else t.invokeCommand

/-- The value of `result` at the end of the exchange. -/
def TeeAnswers.result (t : TeeAnswers) : TeecResult :=
  if t.initializeContext ≠ teecSuccess then initContextFailed
  else if t.openSession ≠ teecSuccess then openSessionFailed
  else t.firstFailure

/-! ## The ways out of an exchange -/

/-- The calls of `init`. -/
def opened (t : TeeAnswers) : List TeeEvent := [.initializeContext t.initializeContext, .openSession t.openSession]

attribute [simp] opened cleanup2 cleanup3 cleanup4 cleanup5

/-- The ways out of an exchange: the value of `result` and the events. -/
inductive ExchangeExit (t : TeeAnswers) (sized : List TeeEvent) (inputSize : UInt32) (loaded : List TeeEvent)
    (input : List UInt8) (outputSize : UInt32) (copied : List TeeEvent) : TeecResult × List TeeEvent → Prop where
  | noContext (h : t.initializeContext ≠ teecSuccess) :
      ExchangeExit t sized inputSize loaded input outputSize copied
        (initContextFailed, [.initializeContext t.initializeContext])
  | noSession (hi : t.initializeContext = teecSuccess) (h : t.openSession ≠ teecSuccess) :
      ExchangeExit t sized inputSize loaded input outputSize copied (openSessionFailed, opened t ++ cleanup2)
  | noInput (hi : t.initializeContext = teecSuccess) (ho : t.openSession = teecSuccess) (h : t.allocateInput ≠ teecSuccess) :
      ExchangeExit t sized inputSize loaded input outputSize copied
        (t.allocateInput, opened t ++ sized ++ [.allocateSharedMemory .input inputSize t.allocateInput] ++ cleanup4)
  | noOutput (hi : t.initializeContext = teecSuccess) (ho : t.openSession = teecSuccess)
      (ha : t.allocateInput = teecSuccess) (h : t.allocateOutput ≠ teecSuccess) :
      ExchangeExit t sized inputSize loaded input outputSize copied
        (t.allocateOutput, opened t ++ sized ++ [.allocateSharedMemory .input inputSize t.allocateInput] ++ loaded ++
          [.storeShm .input 0 inputSize.toNat, .allocateSharedMemory .output outputSize t.allocateOutput] ++ cleanup5)
  | notInvoked (hi : t.initializeContext = teecSuccess) (ho : t.openSession = teecSuccess)
      (ha : t.allocateInput = teecSuccess) (hao : t.allocateOutput = teecSuccess) (h : t.invokeCommand ≠ teecSuccess) :
      ExchangeExit t sized inputSize loaded input outputSize copied
        (t.invokeCommand, opened t ++ sized ++ [.allocateSharedMemory .input inputSize t.allocateInput] ++ loaded ++
          [.storeShm .input 0 inputSize.toNat, .allocateSharedMemory .output outputSize t.allocateOutput] ++
          [.storeShm .output 0 outputSize.toNat, .invokeCommand halTransmit input outputSize t.invokeCommand] ++ cleanup5)
  | completed (h : t.AllSucceed) :
      ExchangeExit t sized inputSize loaded input outputSize copied
        (t.invokeCommand, opened t ++ sized ++ [.allocateSharedMemory .input inputSize t.allocateInput] ++ loaded ++
          [.storeShm .input 0 inputSize.toNat, .allocateSharedMemory .output outputSize t.allocateOutput] ++
          [.storeShm .output 0 outputSize.toNat, .invokeCommand halTransmit input outputSize t.invokeCommand] ++ copied ++
          cleanup5)

theorem exchange_exit (t : TeeAnswers) (sized : List TeeEvent) (inputSize : UInt32) (loaded : List TeeEvent)
    (input : List UInt8) (outputSize : UInt32) (copied : List TeeEvent) :
    ExchangeExit t sized inputSize loaded input outputSize copied
      (exchange t sized inputSize loaded input outputSize copied) := by
  have h100 : (0 : UInt32) ≠ initContextFailed := by decide
  have h101 : (0 : UInt32) ≠ openSessionFailed := by decide
  have hne : openSessionFailed ≠ initContextFailed := by decide
  unfold exchange teeInit
  by_cases hi : t.initializeContext = teecSuccess
  · by_cases ho : t.openSession = teecSuccess
    · simp only [hi, ho, ne_eq, not_true, if_false, h100, h101]
      have hopened : [TeeEvent.initializeContext teecSuccess, TeeEvent.openSession teecSuccess] = opened t := by
        rw [opened, hi, ho]
      rw [hopened]
      split_ifs with hai hao hic
      · exact .completed ⟨hi, ho, hai, hao, hic⟩
      · exact .notInvoked hi ho hai hao hic
      · exact .noOutput hi ho hai hao
      · exact .noInput hi ho hai
    · simp only [hi, ho, ne_eq, not_true, not_false_eq_true, if_false, if_true, hne]
      have hopened : [TeeEvent.initializeContext teecSuccess, TeeEvent.openSession t.openSession] = opened t := by
        rw [opened, hi]
      rw [hopened]
      exact .noSession hi ho
  · simp only [hi, ne_eq, not_false_eq_true, if_true]
    exact .noContext hi

/-- The exchange ends with the code of the first call that fails, through whichever label it leaves. -/
theorem exchange_result (t : TeeAnswers) (sized : List TeeEvent) (inputSize : UInt32) (loaded : List TeeEvent)
    (input : List UInt8) (outputSize : UInt32) (copied : List TeeEvent) :
    (exchange t sized inputSize loaded input outputSize copied).1 = t.result := by
  have hexit := exchange_exit t sized inputSize loaded input outputSize copied
  generalize exchange t sized inputSize loaded input outputSize copied = r at hexit ⊢
  unfold TeeAnswers.result TeeAnswers.firstFailure
  cases hexit with
  | noContext h => simp [h]
  | noSession hi h => simp [hi, h]
  | noInput hi ho h => simp [hi, ho, h]
  | noOutput hi ho ha h => simp [hi, ho, ha, h]
  | notInvoked hi ho ha hao h => simp [hi, ho, ha, hao]
  | completed h =>
    obtain ⟨hi, ho, ha, hao, hic⟩ := h
    simp [hi, ho, ha, hao, hic]

/-- The event stores something for the caller, or reads the output memory. -/
@[simp]
def TeeEvent.OnResponse : TeeEvent → Prop
  | .storeRsp _ _ => True
  | .loadShm .output _ _ => True
  | _ => False

theorem onResponse_cases {e : TeeEvent} (h : e.OnResponse) :
    (∃ off bytes, e = .storeRsp off bytes) ∨ ∃ off len, e = .loadShm .output off len := by
  cases e with
  | storeRsp off bytes => exact Or.inl ⟨off, bytes, rfl⟩
  | loadShm shm off len =>
    cases shm with
    | input => cases h
    | output => exact Or.inr ⟨off, len, rfl⟩
  | _ => cases h

/-- The response is copied when every call succeeds, and not otherwise. -/
theorem exchange_onResponse_iff (t : TeeAnswers) {sized loaded : List TeeEvent} (inputSize : UInt32) (input : List UInt8)
    (outputSize : UInt32) (copied : List TeeEvent) (hsized : ∀ e ∈ sized, ¬e.OnResponse)
    (hloaded : ∀ e ∈ loaded, ¬e.OnResponse) {e : TeeEvent} (he : e.OnResponse) :
    e ∈ (exchange t sized inputSize loaded input outputSize copied).2 ↔ t.AllSucceed ∧ e ∈ copied := by
  have hs : e ∉ sized := fun h => hsized e h he
  have hl : e ∉ loaded := fun h => hloaded e h he
  have hexit := exchange_exit t sized inputSize loaded input outputSize copied
  generalize exchange t sized inputSize loaded input outputSize copied = r at hexit ⊢
  rcases onResponse_cases he with ⟨off, bytes, rfl⟩ | ⟨off, len, rfl⟩
  all_goals
    cases hexit with
    | noContext h => simp [TeeAnswers.AllSucceed, h]
    | noSession hi h => simp [TeeAnswers.AllSucceed, h]
    | noInput hi ho h => simp [TeeAnswers.AllSucceed, hs, h]
    | noOutput hi ho ha h => simp [TeeAnswers.AllSucceed, hs, hl, h]
    | notInvoked hi ho ha hao h => simp [TeeAnswers.AllSucceed, hs, hl, h]
    | completed h => simp [hs, hl, h]

section

variable {t : TeeAnswers} {sized loaded copied : List TeeEvent} {inputSize outputSize : UInt32} {input : List UInt8}

/-- The output memory has the size that was asked for. -/
theorem size_of_allocated {size : UInt32} {ret : TeecResult} (hs : .allocateSharedMemory .output size ret ∉ sized)
    (hl : .allocateSharedMemory .output size ret ∉ loaded) (hc : .allocateSharedMemory .output size ret ∉ copied)
    (h : .allocateSharedMemory .output size ret ∈ (exchange t sized inputSize loaded input outputSize copied).2) :
    size = outputSize := by
  have hexit := exchange_exit t sized inputSize loaded input outputSize copied
  generalize exchange t sized inputSize loaded input outputSize copied = r at hexit h
  cases hexit with
  | noContext => simp at h
  | noSession => simp at h
  | noInput => simp [hs] at h
  | noOutput =>
    have hsize : size = outputSize ∧ ret = t.allocateOutput := by simpa [hs, hl] using h
    exact hsize.1
  | notInvoked =>
    have hsize : size = outputSize ∧ ret = t.allocateOutput := by simpa [hs, hl] using h
    exact hsize.1
  | completed =>
    have hsize : size = outputSize ∧ ret = t.allocateOutput := by simpa [hs, hl, hc] using h
    exact hsize.1

/-- A command that succeeds is the last call of an exchange in which all do. -/
theorem allSucceed_of_invoked {id size : UInt32} {bytes : List UInt8} (hs : .invokeCommand id bytes size teecSuccess ∉ sized)
    (hl : .invokeCommand id bytes size teecSuccess ∉ loaded)
    (h : .invokeCommand id bytes size teecSuccess ∈ (exchange t sized inputSize loaded input outputSize copied).2) :
    t.AllSucceed := by
  have hexit := exchange_exit t sized inputSize loaded input outputSize copied
  generalize exchange t sized inputSize loaded input outputSize copied = r at hexit h
  cases hexit with
  | noContext => simp at h
  | noSession => simp at h
  | noInput => simp [hs] at h
  | noOutput => simp [hs, hl] at h
  | notInvoked hi ho ha hao hn =>
    have hret : id = halTransmit ∧ bytes = input ∧ size = outputSize ∧ teecSuccess = t.invokeCommand := by
      simpa [hs, hl] using h
    exact absurd hret.2.2.2.symm hn
  | completed hall => exact hall

end

/-- The length inside the command. -/
def embeddedLen (cmd : Mem) : Nat := (cmd.readU32 0).toNat

/-- The exchange that `ca_sendEseCommand` makes of a command. -/
def sendExchange (t : TeeAnswers) (cmd : Mem) (rspLen : UInt32) : TeecResult × List TeeEvent :=
  exchange t [.readCmd 0 4] (cmd.readU32 0) [.readCmd 4 (embeddedLen cmd)] (cmd.read 4 (embeddedLen cmd)) rspLen
    [.storeRsp 0 (Mem.bytesOfU32 t.outSize), .loadShm .output 0 t.outSize.toNat,
      .storeRsp 4 (t.outBuffer.read 0 t.outSize.toNat)]

theorem caSendEseCommand_exchange (t : TeeAnswers) (cmd rsp : Mem) {cmdLen rspLen : UInt32} (hc : cmdLen ≠ 0)
    (hr : rspLen ≠ 0) :
    (caSendEseCommand t (some cmd) cmdLen (some rsp) rspLen).ret = caReturn (sendExchange t cmd rspLen).1 ∧
      (caSendEseCommand t (some cmd) cmdLen (some rsp) rspLen).events = (sendExchange t cmd rspLen).2 := by
  simp only [caSendEseCommand, hc, hr, or_self, if_false]
  exact ⟨rfl, rfl⟩

/-- With arguments that pass its check, `ca_sendEseCommand` returns the negated result. -/
theorem caSendEseCommand_ret (t : TeeAnswers) (cmd rsp : Mem) {cmdLen rspLen : UInt32} (hc : cmdLen ≠ 0)
    (hr : rspLen ≠ 0) : (caSendEseCommand t (some cmd) cmdLen (some rsp) rspLen).ret = caReturn t.result := by
  rw [(caSendEseCommand_exchange t cmd rsp hc hr).1, sendExchange, exchange_result]

/-- The result is success exactly when all calls succeed. -/
theorem result_eq_success_iff (t : TeeAnswers) : t.result = teecSuccess ↔ t.AllSucceed := by
  unfold TeeAnswers.result TeeAnswers.firstFailure TeeAnswers.AllSucceed
  by_cases hi : t.initializeContext = teecSuccess
  · by_cases ho : t.openSession = teecSuccess
    · by_cases hai : t.allocateInput = teecSuccess
      · by_cases hao : t.allocateOutput = teecSuccess
        · simp [hi, ho, hai, hao]
        · simp [hi, ho, hai, hao]
      · simp [hi, ho, hai]
    · have hne : openSessionFailed ≠ teecSuccess := by decide
      simp [hi, ho, hne]
  · have hne : initContextFailed ≠ teecSuccess := by decide
    simp [hi, hne]

/-- The exchange of `ca_getEseCplc`. -/
def cplcExchange (t : TeeAnswers) (cplcLen : UInt32) : TeecResult × List TeeEvent :=
  exchange t [] 5 [] getCplcCmd cplcLen
    [.loadShm .output 0 t.outSize.toNat, .storeRsp 0 (t.outBuffer.read 0 t.outSize.toNat)]

theorem caGetEseCplc_exchange (t : TeeAnswers) (buf : Mem) {cplcLen : UInt32} (hl : cplcLen ≠ 0) :
    (caGetEseCplc t (some buf) cplcLen).1.events = (cplcExchange t cplcLen).2 ∧
      (t.AllSucceed → (caGetEseCplc t (some buf) cplcLen).2 = t.outSize) := by
  have hresult : (cplcExchange t cplcLen).1 = t.result := exchange_result ..
  unfold cplcExchange at hresult ⊢
  by_cases hs : t.AllSucceed
  · have hok := (result_eq_success_iff t).2 hs
    simp [caGetEseCplc, hl, hresult, hok]
  · have hok : t.result ≠ teecSuccess := fun h => hs ((result_eq_success_iff t).1 h)
    simp [caGetEseCplc, hl, hresult, hok, hs]

/-- With arguments that pass its check, `ca_getEseCplc` returns the negated result. -/
theorem caGetEseCplc_ret (t : TeeAnswers) (buf : Mem) {cplcLen : UInt32} (hl : cplcLen ≠ 0) :
    (caGetEseCplc t (some buf) cplcLen).1.ret = caReturn t.result := by
  unfold caGetEseCplc
  simp only [hl, if_false, exchange_result]
  split
  · rfl
  · rfl

/-! ## The sign of the result -/

/-- The negated code, as an integer: codes above `0x80000000` come out positive. -/
theorem caReturn_toInt (r : TeecResult) : (caReturn r).toInt =
    if r.toNat = 0 then 0 else if r.toNat ≤ 2 ^ 31 then -(r.toNat : Int) else 2 ^ 32 - (r.toNat : Int) := by
  have hbv : (caReturn r).toInt = (0 - r).toBitVec.toInt := rfl
  have hr := r.toNat_lt
  rw [hbv, BitVec.toInt_eq_toNat_cond, UInt32.toNat_toBitVec, UInt32.toNat_sub]
  simp only [UInt32.toNat_zero]
  split_ifs <;> omega

/-- Negation keeps success apart from every other code. -/
theorem caReturn_eq_zero_iff (r : TeecResult) : caReturn r = 0 ↔ r = teecSuccess := by
  have hr := r.toNat_lt
  rw [← Int32.toInt_inj, caReturn_toInt, ← UInt32.toNat_inj]
  have h0 : (0 : Int32).toInt = 0 := rfl
  have hs : teecSuccess.toNat = 0 := rfl
  rw [h0, hs]
  split_ifs <;> omega

/-- Negation makes a code negative exactly when it is at most `0x80000000`. -/
theorem caReturn_neg_iff (r : TeecResult) : caReturn r < 0 ↔ r ≠ teecSuccess ∧ r ≤ 0x80000000 := by
  have hr := r.toNat_lt
  rw [Int32.lt_iff_toInt_lt, caReturn_toInt, ne_eq, ← UInt32.toNat_inj, UInt32.le_iff_toNat_le]
  have h0 : (0 : Int32).toInt = 0 := rfl
  have hs : teecSuccess.toNat = 0 := rfl
  have hm : (0x80000000 : UInt32).toNat = 2 ^ 31 := rfl
  rw [h0, hs, hm]
  split_ifs <;> omega

/-- A status is `NO_ERROR` exactly when the result is not negative. -/
theorem caStatus_eq_noError_iff (ret : Int32) : caStatus ret = noError ↔ ¬ret < 0 := by
  unfold caStatus noError
  split
  · rename_i h
    rw [Int32.lt_iff_toInt_lt] at h
    have h0 : (0 : Int32).toInt = 0 := rfl
    constructor
    · intro h'
      omega
    · intro h'
      exact absurd (Int32.lt_iff_toInt_lt.2 h) h'
  · simp_all

end EseManager
