import EseManager.Lemmas.Tee
import EseManager.Lib.Resources

/-!
# What an exchange acquires and releases

An exchange acquires a context, a session and two shared memories, and releases them through its cleanup labels. The labels for a
failed allocation are one too early: they release the memory that was not allocated. `cleanup3`, where the first of them should go,
is a label that nothing goes to.
-/

namespace EseManager

open Resources

/-- What an exchange acquires. -/
inductive TeeResource where
  | context
  | session
  | shm (s : Shm)
  deriving DecidableEq, Repr

/-- Shared memory is released before the session, and both before the context. -/
def TeeResource.Before : TeeResource → TeeResource → Prop
  | .shm _, .session => True
  | .shm _, .context => True
  | .session, .context => True
  | _, _ => False

/-- The acquisition, if it succeeds, or the release that an event is. -/
def TeeEvent.resourceOp : TeeEvent → Option (Op TeeResource)
  | .initializeContext ret => if ret = teecSuccess then some (.acquire .context) else none
  | .openSession ret => if ret = teecSuccess then some (.acquire .session) else none
  | .allocateSharedMemory shm _ ret => if ret = teecSuccess then some (.acquire (.shm shm)) else none
  | .releaseSharedMemory shm => some (.release (.shm shm))
  | .closeSession => some (.release .session)
  | .finalizeContext => some (.release .context)
  | .invokeCommand _ _ _ _ => none
  | .readCmd _ _ => none
  | .storeShm _ _ _ => none
  | .loadShm _ _ _ => none
  | .storeRsp _ _ => none

/-- What events acquire and release, in order. -/
def resourceOps (events : List TeeEvent) : List (Op TeeResource) := events.filterMap TeeEvent.resourceOp

/-- Every resource is released as often as it is acquired; only what is held is released; and shared memory is released before the
session, and the session before the context. -/
structure ReleasesBalanced (events : List TeeEvent) : Prop where
  once : ∀ r, (resourceOps events).count (.release r) = (resourceOps events).count (.acquire r)
  allowed : held.Along (Allowed TeeResource.Before) ∅ (resourceOps events)

/-- No allocation is tried, or both succeed. -/
def AllocationsSucceed (t : TeeAnswers) : Prop :=
  t.initializeContext = teecSuccess → t.openSession = teecSuccess →
    t.allocateInput = teecSuccess ∧ t.allocateOutput = teecSuccess

theorem releasesBalanced_of_balanced {events : List TeeEvent} (h : Balanced TeeResource.Before ∅ (resourceOps events)) :
    ReleasesBalanced events :=
  ⟨h.count_release, h.allowed⟩

/-- The context alone is acquired and released. -/
theorem balanced_context : Balanced TeeResource.Before ∅ [.acquire .context, .release .context] := by
  have hc : ∀ q ∈ insert TeeResource.context (∅ : Finset TeeResource), ¬TeeResource.Before q .context := by simp [TeeResource.Before]
  exact balanced_nil.bracket (by simp) hc

/-- All four are acquired, and released in the opposite order. -/
theorem balanced_all : Balanced TeeResource.Before ∅
    [.acquire .context, .acquire .session, .acquire (.shm .input), .acquire (.shm .output), .release (.shm .output),
      .release (.shm .input), .release .session, .release .context] := by
  have hc : ∀ q ∈ insert TeeResource.context (∅ : Finset TeeResource), ¬TeeResource.Before q .context := by simp [TeeResource.Before]
  have hs : ∀ q ∈ insert TeeResource.session (insert .context (∅ : Finset TeeResource)), ¬TeeResource.Before q .session := by
    simp [TeeResource.Before]
  have hi : ∀ q ∈ insert (TeeResource.shm .input) (insert .session (insert .context (∅ : Finset TeeResource))),
      ¬TeeResource.Before q (.shm .input) := by
    simp [TeeResource.Before]
  have ho : ∀ q ∈ insert (TeeResource.shm .output) (insert (.shm .input) (insert .session (insert .context (∅ : Finset TeeResource)))),
      ¬TeeResource.Before q (.shm .output) := by
    simp [TeeResource.Before]
  have hout := balanced_nil.bracket (by simp) ho
  have hin := hout.bracket (by simp) hi
  have hses := hin.bracket (by simp) hs
  exact hses.bracket (by simp) hc

/-- A shared memory that is not held is not to be released. -/
theorem not_along_of_released (pre post : List (Op TeeResource)) {r : TeeResource} (h : r ∉ held.run ∅ pre) :
    ¬held.Along (Allowed TeeResource.Before) ∅ (pre ++ .release r :: post) := by
  rw [Machine.along_append]
  rintro ⟨-, ⟨hin, -⟩, -⟩
  exact h hin

/-- An exchange releases what it has acquired, and nothing else, exactly when no allocation of shared memory fails. -/
theorem exchange_balanced_iff (t : TeeAnswers) {sized loaded copied : List TeeEvent} (inputSize : UInt32) (input : List UInt8)
    (outputSize : UInt32) (hsized : resourceOps sized = []) (hloaded : resourceOps loaded = [])
    (hcopied : resourceOps copied = []) :
    ReleasesBalanced (exchange t sized inputSize loaded input outputSize copied).2 ↔ AllocationsSucceed t := by
  have hexit := exchange_exit t sized inputSize loaded input outputSize copied
  generalize exchange t sized inputSize loaded input outputSize copied = r at hexit ⊢
  unfold AllocationsSucceed
  unfold resourceOps at hsized hloaded hcopied
  cases hexit with
  | noContext h =>
    refine iff_of_true (releasesBalanced_of_balanced ?_) fun hi => absurd hi h
    simpa [resourceOps, TeeEvent.resourceOp, h] using balanced_nil
  | noSession hi h =>
    refine iff_of_true (releasesBalanced_of_balanced ?_) fun _ ho => absurd ho h
    simpa [resourceOps, TeeEvent.resourceOp, hi, h] using balanced_context
  | noInput hi ho h =>
    refine iff_of_false (fun hb => ?_) fun hall => h (hall hi ho).1
    have hops : resourceOps (opened t ++ sized ++ [.allocateSharedMemory .input inputSize t.allocateInput] ++ cleanup4) =
        [.acquire .context, .acquire .session, .release (.shm .input), .release .session, .release .context] := by
      simp [resourceOps, TeeEvent.resourceOp, hsized, hi, ho, h]
    have hallowed := hb.allowed
    rw [hops] at hallowed
    exact not_along_of_released [.acquire .context, .acquire .session] _ (by decide) hallowed
  | noOutput hi ho ha h =>
    refine iff_of_false (fun hb => ?_) fun hall => h (hall hi ho).2
    have hops : resourceOps (opened t ++ sized ++ [.allocateSharedMemory .input inputSize t.allocateInput] ++ loaded ++
        [.storeShm .input 0 inputSize.toNat, .allocateSharedMemory .output outputSize t.allocateOutput] ++ cleanup5) =
        [.acquire .context, .acquire .session, .acquire (.shm .input), .release (.shm .output), .release (.shm .input),
          .release .session, .release .context] := by
      simp [resourceOps, TeeEvent.resourceOp, List.filterMap_cons, hsized, hloaded, hi, ho, ha, h]
    have hallowed := hb.allowed
    rw [hops] at hallowed
    exact not_along_of_released [.acquire .context, .acquire .session, .acquire (.shm .input)] _ (by decide) hallowed
  | notInvoked hi ho ha hao h =>
    refine iff_of_true (releasesBalanced_of_balanced ?_) fun _ _ => ⟨ha, hao⟩
    simpa [resourceOps, TeeEvent.resourceOp, List.filterMap_cons, hsized, hloaded, hi, ho, ha, hao] using balanced_all
  | completed h =>
    obtain ⟨hi, ho, ha, hao, -⟩ := h
    refine iff_of_true (releasesBalanced_of_balanced ?_) fun _ _ => ⟨ha, hao⟩
    simpa [resourceOps, TeeEvent.resourceOp, List.filterMap_cons, hsized, hloaded, hcopied, hi, ho, ha, hao] using balanced_all

/-- For every sequence of results of the TEE calls, and arguments that pass the check of the function: `ca_sendEseCommand` releases
what it has acquired, once and in the right order, and releases nothing else, exactly when no allocation of shared memory fails; and
so does `ca_getEseCplc`. -/
theorem tee_resources_balanced_iff (t : TeeAnswers) :
    (∀ (cmd rsp : Mem) (cmdLen rspLen : UInt32), cmdLen ≠ 0 → rspLen ≠ 0 →
      (ReleasesBalanced (caSendEseCommand t (some cmd) cmdLen (some rsp) rspLen).events ↔ AllocationsSucceed t)) ∧
      ∀ (buf : Mem) (cplcLen : UInt32), cplcLen ≠ 0 →
        (ReleasesBalanced (caGetEseCplc t (some buf) cplcLen).1.events ↔ AllocationsSucceed t) := by
  constructor
  · intro cmd rsp cmdLen rspLen hc hr
    rw [(caSendEseCommand_exchange t cmd rsp hc hr).2]
    exact exchange_balanced_iff t _ _ _ rfl rfl rfl
  · intro buf cplcLen hl
    rw [(caGetEseCplc_exchange t buf hl).1]
    exact exchange_balanced_iff t _ _ _ rfl rfl rfl

/-- The exchange in which the session cannot be opened. -/
def noSession : TeeAnswers := ⟨0, 1, 0, 0, 0, 0, fun _ => 0⟩

/-- Without a session, the context is released by both functions. -/
theorem tee_resources_balanced_noSession :
    ReleasesBalanced (caSendEseCommand noSession (some fun _ => 0) 204 (some fun _ => 0) 204).events ∧
      ReleasesBalanced (caGetEseCplc noSession (some fun _ => 0) 100).1.events := by
  have hfree : AllocationsSucceed noSession := fun _ ho => absurd ho (by decide)
  obtain ⟨hsend, hcplc⟩ := tee_resources_balanced_iff noSession
  exact ⟨(hsend _ _ 204 204 (by decide) (by decide)).2 hfree, (hcplc _ 100 (by decide)).2 hfree⟩

/-- The input memory cannot be allocated, and is released all the same; so is the output memory when that one fails. -/
theorem tee_releases_unallocated :
    let noInput : TeeAnswers := ⟨0, 0, 1, 0, 0, 0, fun _ => 0⟩
    let noOutput : TeeAnswers := ⟨0, 0, 0, 1, 0, 0, fun _ => 0⟩
    (caSendEseCommand noInput (some fun _ => 0) 204 (some fun _ => 0) 204).events =
        [.initializeContext 0, .openSession 0, .readCmd 0 4, .allocateSharedMemory .input 0 1, .releaseSharedMemory .input,
          .closeSession, .finalizeContext] ∧
      ¬ReleasesBalanced (caSendEseCommand noInput (some fun _ => 0) 204 (some fun _ => 0) 204).events ∧
      ¬ReleasesBalanced (caGetEseCplc noOutput (some fun _ => 0) 100).1.events := by
  intro noInput noOutput
  refine ⟨rfl, ?_, ?_⟩
  · intro h
    have hallowed := h.allowed
    revert hallowed
    exact not_along_of_released [.acquire .context, .acquire .session] _ (by decide)
  · intro h
    have hallowed := h.allowed
    revert hallowed
    exact not_along_of_released [.acquire .context, .acquire .session, .acquire (.shm .input)] _ (by decide)

end EseManager
