import EseManager.Device
import EseManager.Lemmas.Handlers

/-!
# The node is open while somebody is registered

`nq_node` is opened by three handlers and closed by three, and may stay open or closed after a failure in any of them. What ties it
to the registrations is `NodeOpen`: whoever is registered was registered with the node open, and it is closed only when nobody
is. So `powerOff` never has to assume that the eSE is off.
-/

namespace EseManager

/-- The node is open while somebody is registered. -/
def NodeOpen (s : State) : Prop := s.pidsMap.isEmpty = false → 0 ≤ s.nqNode

/-- `powerOff` assumes that the eSE is off: it releases the last hold and finds the node closed. -/
def AssumesOff (s : State) (uid : Int) (pid : Pid) : Prop :=
  uidAllowed uid = true ∧ s.nqNode < 0 ∧ (s.pidsMap.erase pid).isEmpty = true ∧
    ∃ d, s.pidsMap[pid]? = some d ∧ ¬d.clientThreadCount - 1 > 0

theorem nodeOpen_of_isEmpty {s : State} (h : s.pidsMap.isEmpty = true) : NodeOpen s := by
  intro hne
  rw [h] at hne
  cases hne

theorem nodeOpen_of_nonneg {s : State} (h : 0 ≤ s.nqNode) : NodeOpen s := fun _ => h

/-- Opening the node keeps it open. -/
theorem NodeOpen.nodeAfterOpen {s : State} (h : NodeOpen s) (a : Answers) :
    NodeOpen { s with nqNode := nodeAfterOpen s a } := by
  intro hne
  have hnode := h hne
  simp only [EseManager.nodeAfterOpen, if_neg (Int.not_lt.2 hnode)]
  exact hnode

/-- Switching off closes the node when nobody is registered, so that it matters to nobody. -/
theorem nodeOpen_switchOff {s : State} (h : s.pidsMap.isEmpty = true) {a : Answers} {done : Int} {o : Outcome}
    (ho : SwitchOffExit s a done o) : NodeOpen o.state := by
  cases ho <;> exact nodeOpen_of_isEmpty h

/-- `powerOn` keeps the node open while somebody is registered. -/
theorem nodeOpen_powerOn {s : State} (h : NodeOpen s) (uid : Int) (pid : Pid) (notifier : Option Binder) (a : Answers) :
    NodeOpen (powerOn s uid pid notifier a).state := by
  have hexit := powerOn_exit s uid pid notifier a
  generalize powerOn s uid pid notifier a = o at hexit
  cases hexit with
  | bindingRefused => exact h.nodeAfterOpen a
  | uidRefused => exact h
  | notOpened => exact h.nodeAfterOpen a
  | admitted hadm o ho =>
    obtain ⟨-, -, hnode⟩ := hadm
    rw [Outcome.after_state]
    cases ho with
    | statusFailed => exact nodeOpen_of_nonneg hnode
    | switchFailed => exact nodeOpen_of_nonneg hnode
    | on _ _ _ o hr =>
      rw [Outcome.after_state]
      cases hr with
      | shared => exact nodeOpen_of_nonneg hnode
      | undoFailed => exact nodeOpen_of_nonneg hnode
      | undone _ he => exact nodeOpen_of_isEmpty he
      | linkFailed => exact nodeOpen_of_nonneg hnode
      | registered => exact nodeOpen_of_nonneg hnode

/-- So does `powerOff`. -/
theorem nodeOpen_powerOff {s : State} (h : NodeOpen s) (uid : Int) (pid : Pid) (a : Answers) :
    NodeOpen (powerOff s uid pid a).state := by
  have hexit := powerOff_exit s uid pid a
  generalize powerOff s uid pid a = o at hexit
  cases hexit with
  | refused => exact h
  | unregistered => exact h
  | kept _ d hm => exact nodeOpen_of_nonneg (h (isEmpty_eq_false_of_getElem? hm))
  | shared _ d hm => exact nodeOpen_of_nonneg (h (isEmpty_eq_false_of_getElem? hm))
  | closed _ d hm => exact nodeOpen_of_nonneg (h (isEmpty_eq_false_of_getElem? hm))
  | last _ d _ _ he _ o ho =>
    rw [Outcome.after_state]
    exact nodeOpen_switchOff he ho

/-- Every handler keeps the invariant, whatever the world answers. -/
theorem nodeOpen_step {s : State} (h : NodeOpen s) (r : Request) (a : Answers) : NodeOpen (handle s r a).state := by
  cases r with
  | powerOn uid pid notifier => exact nodeOpen_powerOn h uid pid notifier a
  | powerOff uid pid => exact nodeOpen_powerOff h uid pid a
  | getState =>
    rw [handle_getState, (getState_eq s a).1]
    exact h.nodeAfterOpen a
  | killall uid =>
    have hexit := killall_exit s uid a
    rw [handle_killall]
    generalize killall s uid a = o at hexit
    cases hexit with
    | refused => exact h
    | notOpened => exact nodeOpen_of_isEmpty Std.ExtTreeMap.isEmpty_empty
    | opened _ _ _ hn o ho =>
      rw [Outcome.after_state]
      exact nodeOpen_switchOff Std.ExtTreeMap.isEmpty_empty ho
  | geteSEBindingStatus => exact h
  | binderDied mPid =>
    rw [handle_binderDied, binderDied_eq]
    intro hne
    refine h ?_
    rw [Std.ExtTreeMap.isEmpty_eq_false_iff] at hne ⊢
    rintro hemp
    simp [hemp] at hne

/-- In every reachable state the node is open if somebody is registered. -/
theorem nodeOpen_run (xs : List (Request × Answers)) : NodeOpen (daemon.run State.init xs) :=
  Machine.run_keeps (I := NodeOpen) (fun _ x h => nodeOpen_step h x.1 x.2)
    (nodeOpen_of_isEmpty Std.ExtTreeMap.isEmpty_empty) xs

/-- `powerOff` never assumes that the eSE is off while the invariant holds. -/
theorem NodeOpen.not_assumesOff {s : State} (h : NodeOpen s) (uid : Int) (pid : Pid) : ¬AssumesOff s uid pid := by
  rintro ⟨-, hn, -, d, hm, -⟩
  have := h (isEmpty_eq_false_of_getElem? hm)
  omega

/-- After every run, whatever failed in it: the node is open if somebody is registered, `powerOff` does not assume that the eSE
is off, and if it returns 0 it has itself switched the eSE off, and that has succeeded. -/
theorem powerOff_success_real (xs : List (Request × Answers)) (uid : Int) (pid : Pid) (a : Answers) :
    let s := daemon.run State.init xs
    (s.pidsMap.isEmpty = false → 0 ≤ s.nqNode) ∧ ¬AssumesOff s uid pid ∧
      ((powerOff s uid pid a).ret = 0 →
        ∃ ret, 0 ≤ ret ∧ .ioctl s.nqNode (.setSpmPwr 0) ret ∈ (powerOff s uid pid a).calls) := by
  intro s
  have hopen : NodeOpen s := nodeOpen_run xs
  refine ⟨hopen, hopen.not_assumesOff uid pid, fun hret => ?_⟩
  have hexit := powerOff_exit s uid pid a
  generalize powerOff s uid pid a = o at hexit hret
  cases hexit with
  | refused => cases hret
  | unregistered => cases hret
  | kept => cases hret
  | shared => cases hret
  | closed hu d hm hc he hn => exact absurd ⟨hu, hn, he, d, hm, hc⟩ (hopen.not_assumesOff uid pid)
  | last _ d _ _ _ _ o ho =>
    rw [Outcome.after_ret] at hret
    cases ho with
    | busy => cases hret
    | offFailed _ hr =>
      simp only at hret
      omega
    | off _ hr node =>
      refine ⟨a.pwrOffRet, hr, ?_⟩
      simp [Outcome.after, released]

end EseManager
