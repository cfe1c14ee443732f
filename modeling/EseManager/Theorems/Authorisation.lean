import EseManager.Device
import EseManager.Registrations

/-!
# Who switches the eSE on

Two gates stand before every effect of `powerOn`: the binding status, which the first request leaves out, and the uid of the
caller. `admitted_of_grants` says that nothing switches the eSE on or registers a pid but a `powerOn` that has passed both, and
`grants_authorised` reads the gates over whole runs: the flag of the first request is up only while no `powerOn` has come.
-/

namespace EseManager

/-- `P61_SET_POWER_SCHEME` and `P61_SET_SPM_PWR 1`. -/
def Call.isPowerOn : Call → Bool
  | .ioctl _ (.setPowerScheme _) _ => true
  | .ioctl _ (.setSpmPwr 1) _ => true
  | _ => false

/-- A `powerOn` request. -/
def Request.isPowerOn : Request → Bool
  | .powerOn _ _ _ => true
  | _ => false

/-- A pid is entered in the map, or one hold of it more is counted. -/
def Registers (m m' : PidsMap) : Prop :=
  ∃ (pid : Pid) (d' : ServiceData), m'[pid]? = some d' ∧
    (m[pid]? = none ∨ ∃ d : ServiceData, m[pid]? = some d ∧ d'.clientThreadCount = d.clientThreadCount + 1)

/-- A step that switches the eSE on, or registers a pid. -/
def Grants (s : State) (x : Request × Answers) : Prop :=
  (∃ c ∈ (handle s x.1 x.2).calls, c.isPowerOn = true) ∨ Registers s.pidsMap (handle s x.1 x.2).state.pidsMap

/-! ## Only an admitted powerOn has effects -/

theorem Call.isPower_of_isPowerOn {c : Call} (h : c.isPowerOn = true) : c.isPower = true := by
  unfold Call.isPowerOn at h
  split at h
  · rfl
  · rfl
  · cases h

/-- No call of quiet calls switches the eSE on. -/
theorem Quiet.not_isPowerOn {cs : List Call} (h : Quiet cs) {c : Call} (hc : c ∈ cs) : ¬c.isPowerOn = true := by
  intro hon
  have hp := h c hc
  rw [Call.isPower_of_isPowerOn hon] at hp
  cases hp

theorem SwitchOffExit.not_isPowerOn {s : State} {a : Answers} {done : Int} {o : Outcome} (h : SwitchOffExit s a done o)
    {c : Call} (hc : c ∈ o.calls) : ¬c.isPowerOn = true := by
  have hkey : ∀ c ∈ o.calls, c.isPowerOn = false := by
    cases h <;> simp [statusCall, Call.isPowerOn]
  simp [hkey c hc]

/-- A release switches nothing on. -/
theorem powerOff_not_isPowerOn {s : State} {uid : Int} {pid : Pid} {a : Answers} {c : Call}
    (hc : c ∈ (powerOff s uid pid a).calls) : ¬c.isPowerOn = true := by
  have hexit := powerOff_exit s uid pid a
  generalize powerOff s uid pid a = o at hexit hc
  cases hexit with
  | refused => exact absurd hc List.not_mem_nil
  | unregistered => exact absurd hc List.not_mem_nil
  | kept _ d => exact (unlink_quiet s d).not_isPowerOn hc
  | shared _ d => exact (unlink_quiet s d).not_isPowerOn hc
  | closed _ d => exact (unlink_quiet s d).not_isPowerOn hc
  | last _ d _ _ _ _ o ho =>
    rw [Outcome.after_calls, List.mem_append] at hc
    rcases hc with hc | hc
    · exact (unlink_quiet s d).not_isPowerOn hc
    · exact ho.not_isPowerOn hc

theorem killall_not_isPowerOn {s : State} {uid : Int} {a : Answers} {c : Call} (hc : c ∈ (killall s uid a).calls) :
    ¬c.isPowerOn = true := by
  have hexit := killall_exit s uid a
  generalize killall s uid a = o at hexit hc
  cases hexit with
  | refused => exact absurd hc List.not_mem_nil
  | notOpened _ _ hu => exact (hu.quiet.append (openedCalls_quiet s a)).not_isPowerOn hc
  | opened _ _ hu _ o ho =>
    rw [Outcome.after_calls, List.mem_append] at hc
    rcases hc with hc | hc
    · exact (hu.quiet.append (openedCalls_quiet s a)).not_isPowerOn hc
    · exact ho.not_isPowerOn hc

/-- Only an admitted `powerOn` switches the eSE on. -/
theorem admitted_of_isPowerOn {s : State} {r : Request} {a : Answers} {c : Call} (hc : c ∈ (handle s r a).calls)
    (hon : c.isPowerOn = true) : ∃ uid pid notifier, r = .powerOn uid pid notifier ∧ Admitted s uid a := by
  cases r with
  | powerOn uid pid notifier =>
    refine ⟨uid, pid, notifier, rfl, ?_⟩
    by_contra hadm
    obtain ⟨-, hq, -⟩ := powerOn_refused hadm pid notifier
    exact hq.not_isPowerOn hc hon
  | powerOff uid pid => exact absurd hon (powerOff_not_isPowerOn hc)
  | getState => exact absurd hon ((getState_quiet s a).not_isPowerOn hc)
  | killall uid => exact absurd hon (killall_not_isPowerOn hc)
  | geteSEBindingStatus =>
    rw [List.mem_singleton.1 hc] at hon
    cases hon
  | binderDied mPid =>
    rw [handle_binderDied, binderDied_eq] at hc
    split at hc
    · rw [List.mem_singleton.1 hc] at hon
      cases hon
    · exact absurd hc List.not_mem_nil

/-- Nothing is registered when every entry that is left was there before, with its count or one less. -/
theorem not_registers {m m' : PidsMap}
    (h : ∀ (pid : Pid) (d' : ServiceData), m'[pid]? = some d' → ∃ d : ServiceData, m[pid]? = some d ∧
      (d'.clientThreadCount = d.clientThreadCount ∨ d'.clientThreadCount = d.clientThreadCount - 1)) :
    ¬Registers m m' := by
  rintro ⟨pid, d', hd', hnew⟩
  obtain ⟨d, hd, hcount⟩ := h pid d' hd'
  rw [hd] at hnew
  rcases hnew with hnew | ⟨d₀, hd₀, hup⟩
  · cases hnew
  · rw [Option.some.injEq] at hd₀
    subst hd₀
    have hbv := congrArg Int32.toBitVec hup
    have hone : (1 : Int32).toBitVec = 1#32 := rfl
    rw [Int32.toBitVec_add, hone] at hbv
    rcases hcount with hcount | hcount
    · rw [hcount] at hbv
      bv_omega
    · rw [hcount, Int32.toBitVec_sub, hone] at hbv
      bv_omega

theorem not_registers_self (m : PidsMap) : ¬Registers m m := not_registers fun _ d hd => ⟨d, hd, Or.inl rfl⟩

/-- Erasing registers nobody. -/
theorem not_registers_erase (m : PidsMap) (pid : Pid) : ¬Registers m (m.erase pid) := by
  refine not_registers fun q d hd => ?_
  rw [Std.ExtTreeMap.getElem?_erase] at hd
  split at hd
  · cases hd
  · exact ⟨d, hd, Or.inl rfl⟩

/-- Counting down registers nobody. -/
theorem not_registers_countedDown {s : State} {pid : Pid} {d : ServiceData} (hm : s.pidsMap[pid]? = some d) :
    ¬Registers s.pidsMap (countedDown s pid d).pidsMap := by
  refine not_registers fun q d' hd' => ?_
  rw [countedDown, Std.ExtTreeMap.getElem?_insert] at hd'
  split at hd'
  · rename_i hq
    rw [Option.some.injEq] at hd'
    rw [Std.LawfulEqCmp.compare_eq_iff_eq] at hq
    subst hq hd'
    exact ⟨d, hm, Or.inr rfl⟩
  · exact ⟨d', hd', Or.inl rfl⟩

/-- Only an admitted `powerOn` is answered as one that acquires. -/
theorem admitted_of_acquire {s : State} {r : Request} {a : Answers} {pid : Pid}
    (hop : holdOp r (handle s r a).ret = .acquire pid) : ∃ uid pid notifier, r = .powerOn uid pid notifier ∧ Admitted s uid a := by
  cases r with
  | powerOn uid q notifier =>
    refine ⟨uid, q, notifier, rfl, ?_⟩
    rcases powerOn_cases s uid q notifier a with ⟨hneg, -⟩ | ⟨-, hadm, -⟩
    · rw [handle_powerOn, holdOp_powerOn_of_neg hneg] at hop
      cases hop
    · exact hadm
  | powerOff uid q =>
    simp only [holdOp] at hop
    split at hop <;> cases hop
  | killall uid =>
    simp only [holdOp] at hop
    split at hop <;> cases hop
  | getState | geteSEBindingStatus | binderDied => cases hop

/-- Only an admitted `powerOn` registers a pid. -/
theorem admitted_of_registers {s : State} {r : Request} {a : Answers}
    (h : Registers s.pidsMap (handle s r a).state.pidsMap) :
    ∃ uid pid notifier, r = .powerOn uid pid notifier ∧ Admitted s uid a := by
  cases handle_clients s r a with
  | kept _ hs =>
    rw [hs.pidsMap] at h
    exact absurd h (not_registers_self _)
  | acquired pid cb hop _ => exact admitted_of_acquire hop
  | absent _ _ _ hs =>
    rw [hs.pidsMap] at h
    exact absurd h (not_registers_self _)
  | oneOfSeveral pid d _ hm _ hs =>
    rw [hs.pidsMap] at h
    exact absurd h (not_registers_countedDown hm)
  | lastOne pid d _ _ _ hs =>
    rw [hs.pidsMap] at h
    exact absurd h (not_registers_erase _ pid)
  | cleared _ hm =>
    rw [hm] at h
    obtain ⟨pid, d', hd', -⟩ := h
    simp at hd'
  | erased pid _ hs =>
    rw [hs.pidsMap] at h
    exact absurd h (not_registers_erase _ pid)

/-- Nothing but an admitted `powerOn` switches the eSE on or registers a pid. -/
theorem admitted_of_grants {s : State} {x : Request × Answers} (h : Grants s x) :
    ∃ uid pid notifier, x.1 = .powerOn uid pid notifier ∧ Admitted s uid x.2 := by
  rcases h with ⟨c, hc, hon⟩ | h
  · exact admitted_of_isPowerOn hc hon
  · exact admitted_of_registers h

/-! ## The flag of the first call -/

theorem SwitchOffExit.isFirstCalled {s : State} {a : Answers} {done : Int} {o : Outcome} (h : SwitchOffExit s a done o) :
    o.state.isFirstCalled = s.isFirstCalled := by
  cases h with
  | busy => rfl
  | offFailed => rfl
  | off => rfl

/-- Every `powerOn` takes the flag down. -/
theorem powerOn_isFirstCalled (s : State) (uid : Int) (pid : Pid) (notifier : Option Binder) (a : Answers) :
    (powerOn s uid pid notifier a).state.isFirstCalled = false := by
  have hexit := powerOn_exit s uid pid notifier a
  generalize powerOn s uid pid notifier a = o at hexit ⊢
  cases hexit with
  | bindingRefused hb =>
    obtain ⟨hf, -⟩ := isPowerOnAllowed_of_not_accepted hb
    exact hf
  | uidRefused => rfl
  | notOpened => rfl
  | admitted _ o ho =>
    rw [Outcome.after_state]
    cases ho with
    | statusFailed => rfl
    | switchFailed => rfl
    | on _ _ _ o hr => cases hr <;> rfl

theorem powerOff_isFirstCalled (s : State) (uid : Int) (pid : Pid) (a : Answers) :
    (powerOff s uid pid a).state.isFirstCalled = s.isFirstCalled := by
  have hexit := powerOff_exit s uid pid a
  generalize powerOff s uid pid a = o at hexit ⊢
  cases hexit with
  | last _ _ _ _ _ _ o ho => exact ho.isFirstCalled
  | refused | unregistered | kept | shared | closed => rfl

theorem killall_isFirstCalled (s : State) (uid : Int) (a : Answers) :
    (killall s uid a).state.isFirstCalled = s.isFirstCalled := by
  have hexit := killall_exit s uid a
  generalize killall s uid a = o at hexit ⊢
  cases hexit with
  | opened _ _ _ _ o ho => exact ho.isFirstCalled
  | refused | notOpened => rfl

/-- The flag of the first call is up after a step only if it was before and the step is not a `powerOn`. -/
theorem isFirstCalled_step {s : State} {r : Request} {a : Answers} (h : (handle s r a).state.isFirstCalled = true) :
    s.isFirstCalled = true ∧ r.isPowerOn = false := by
  cases r with
  | powerOn uid pid notifier =>
    rw [handle_powerOn, powerOn_isFirstCalled] at h
    cases h
  | powerOff uid pid =>
    rw [handle_powerOff, powerOff_isFirstCalled] at h
    exact ⟨h, rfl⟩
  | getState =>
    rw [handle_getState, (getState_eq s a).1] at h
    exact ⟨h, rfl⟩
  | killall uid =>
    rw [handle_killall, killall_isFirstCalled] at h
    exact ⟨h, rfl⟩
  | geteSEBindingStatus => exact ⟨h, rfl⟩
  | binderDied mPid =>
    rw [handle_binderDied, binderDied_eq] at h
    exact ⟨h, rfl⟩

/-- While the flag of the first call is up, no `powerOn` has come. -/
theorem isFirstCalled_run {s : State} {xs : List (Request × Answers)} (h : (daemon.run s xs).isFirstCalled = true) :
    s.isFirstCalled = true ∧ ∀ x ∈ xs, x.1.isPowerOn = false := by
  induction xs generalizing s with
  | nil => exact ⟨h, fun x hx => absurd hx List.not_mem_nil⟩
  | cons x xs ih =>
    obtain ⟨hnext, hrest⟩ := ih h
    obtain ⟨hf, hx⟩ := isFirstCalled_step hnext
    refine ⟨hf, fun y hy => ?_⟩
    rcases List.mem_cons.1 hy with rfl | hy
    · exact hx
    · exact hrest y hy

/-! ## Every effect is authorised -/

/-- The uids that pass, of the non-negative ones. -/
theorem emod_of_uidAllowed {uid : Int} (h : uidAllowed uid = true) (h0 : 0 ≤ uid) :
    uid % 100000 = 0 ∨ uid % 100000 = 1000 ∨ uid % 100000 = 1001 := by
  have happ : appUid uid = uid % 100000 := Int.tmod_eq_emod_of_nonneg h0
  simp only [uidAllowed, happ, systemUid, rootUid, radioUid, Bool.or_eq_true, beq_iff_eq] at h
  tauto

/-- A `powerOn` that has passed both gates: its caller is system, root or radio in its user, and unless it is the first `powerOn`
after the requests `pre`, it has asked for the binding status and got an acceptable one. -/
def Authorised (pre : List (Request × Answers)) (x : Request × Answers) (calls : List Call) : Prop :=
  ∃ uid pid notifier, x.1 = .powerOn uid pid notifier ∧ uidAllowed uid = true ∧
    (0 ≤ uid → uid % 100000 = 0 ∨ uid % 100000 = 1000 ∨ uid % 100000 = 1001) ∧
    ((∀ y ∈ pre, y.1.isPowerOn = false) ∨
      ∃ status, .fpGeteSEBindingStatus status ∈ calls ∧ (status = eseBindingRight ∨ status = eseNoBindingRelation))

/-- In every run from a fresh daemon, every step that switches the eSE on or registers a pid is an authorised `powerOn`. -/
theorem grants_authorised (pre : List (Request × Answers)) (x : Request × Answers)
    (h : Grants (daemon.run State.init pre) x) :
    Authorised pre x (handle (daemon.run State.init pre) x.1 x.2).calls := by
  obtain ⟨uid, pid, notifier, hx, hadm⟩ := admitted_of_grants h
  have hu := hadm.2.1
  refine ⟨uid, pid, notifier, hx, hu, emod_of_uidAllowed hu, ?_⟩
  by_cases hf : (daemon.run State.init pre).isFirstCalled = true
  · exact Or.inl (isFirstCalled_run hf).2
  · have hb := hadm.1.resolve_left hf
    refine Or.inr ⟨x.2.bindStatus, ?_, hb⟩
    rw [hx, handle_powerOn, powerOn_admitted hadm, Outcome.after_calls, askedCalls, if_neg hf]
    simp [geteSEBindingStatus]

/-- The system powers the eSE on with a right binding, after an app whose request was the first. -/
theorem grants_authorised_second :
    Grants (daemon.run State.init [(.powerOn 10050 77 none, working)]) (.powerOn 1000 5 (some 1), working) ∧
      Authorised [(.powerOn 10050 77 none, working)] (.powerOn 1000 5 (some 1), working)
        (handle (daemon.run State.init [(.powerOn 10050 77 none, working)]) (.powerOn 1000 5 (some 1)) working).calls := by
  have hg : Grants (daemon.run State.init [(.powerOn 10050 77 none, working)]) (.powerOn 1000 5 (some 1), working) :=
    Or.inl ⟨.ioctl 3 (.setSpmPwr 1) 0, by decide, rfl⟩
  exact ⟨hg, grants_authorised [(.powerOn 10050 77 none, working)] (.powerOn 1000 5 (some 1), working) hg⟩

end EseManager
