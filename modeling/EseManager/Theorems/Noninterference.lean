import EseManager.Device
import EseManager.Lemmas.Handlers

/-!
# Unauthorised requests

`powerOff` turns an unauthorised caller away before anything else, and leaves no trace of it. `powerOn` asks `isPowerOnAllowed`
first, and that spends the first-call exemption, or opens the node for the argument of a log line. `no_influence_iff` says which
unauthorised requests can be left out of a run with nobody noticing.
-/

namespace EseManager

/-- A power request of a caller whose uid fails the test. -/
def Request.Unauthorised : Request → Prop
  | .powerOn uid _ _ => uidAllowed uid = false
  | .powerOff uid _ => uidAllowed uid = false
  | _ => False

/-- What a caller can notice of the state: the registrations, the node, and the first-call exemption. -/
def State.noticed (s : State) : PidsMap × Int × Bool := (s.pidsMap, s.nqNode, s.isFirstCalled)

/-- The power ioctls of a run, in order. -/
def powerCalls (outs : List (Int × List Call)) : List Call := (outs.flatMap Prod.snd).filter Call.isPower

/-- Leaving the request `x` out of the run `pre ++ x :: post` changes nothing for anybody else: at every later point the states
are the same as far as they can be noticed, the later requests get the same replies, and the power ioctls are the same. -/
structure NoInfluence (pre : List (Request × Answers)) (x : Request × Answers) (post : List (Request × Answers)) :
    Prop where
  states : ∀ later, later <+: post →
    (daemon.run State.init (pre ++ x :: later)).noticed = (daemon.run State.init (pre ++ later)).noticed
  replies : (daemon.outs (daemon.run State.init (pre ++ [x])) post).map Prod.fst =
    (daemon.outs (daemon.run State.init pre) post).map Prod.fst
  power : powerCalls (daemon.outs State.init (pre ++ x :: post)) = powerCalls (daemon.outs State.init (pre ++ post))

/-- An unauthorised request that the daemon turns away without a trace: any `powerOff`, and a `powerOn` that is not the first one
and either finds the binding accepted, or the node open, or cannot open it. -/
def Traceless (s : State) : Request → Answers → Prop
  | .powerOn _ _ _, a =>
    s.isFirstCalled = false ∧
      (a.bindStatus = eseBindingRight ∨ a.bindStatus = eseNoBindingRelation ∨ 0 ≤ s.nqNode ∨ a.openFd = none)
  | _, _ => True

/-! ## The node is closed or open -/

/-- The node is -1 while it is not open. -/
def NodeInv (s : State) : Prop := s.nqNode = -1 ∨ 0 ≤ s.nqNode

theorem nodeInv_nodeAfterOpen {s : State} (h : NodeInv s) (a : Answers) :
    nodeAfterOpen s a = -1 ∨ 0 ≤ nodeAfterOpen s a := by
  unfold nodeAfterOpen openRet
  split
  · cases a.openFd with
    | none => exact Or.inl rfl
    | some fd => exact Or.inr (Int.natCast_nonneg fd)
  · exact h

/-- Closing the node keeps it or leaves it closed. -/
theorem nodeInv_close {s s' : State} (h : NodeInv s) {a : Answers}
    (hs : s'.nqNode = if a.closeRet ≠ 0 then s.nqNode else -1) : NodeInv s' := by
  unfold NodeInv
  rw [hs]
  split
  · exact h
  · exact Or.inl rfl

theorem nodeInv_switchOff {s : State} (h : NodeInv s) {a : Answers} {done : Int} {o : Outcome}
    (ho : SwitchOffExit s a done o) : NodeInv o.state := by
  cases ho with
  | busy => exact h
  | offFailed => exact h
  | off _ _ node hnode => exact nodeInv_close h hnode

theorem nodeInv_powerOn {s : State} (h : NodeInv s) (uid : Int) (pid : Pid) (notifier : Option Binder) (a : Answers) :
    NodeInv (powerOn s uid pid notifier a).state := by
  have hopen := nodeInv_nodeAfterOpen h a
  by_cases hadm : Admitted s uid a
  · have hadmitted : NodeInv (admittedState s a) := hopen
    have heq := powerOn_admitted hadm pid notifier
    have hexit := powerOnNode_exit (admittedState s a) pid notifier a
    rw [heq, Outcome.after_state]
    generalize powerOnNode (admittedState s a) pid notifier a = o at hexit
    cases hexit with
    | statusFailed => exact hopen
    | switchFailed => exact hopen
    | on _ _ _ o hr =>
      cases hr with
      | shared => exact hopen
      | undoFailed => exact hopen
      | undone _ _ _ node hnode => exact nodeInv_close hadmitted hnode
      | linkFailed => exact hopen
      | registered => exact hopen
  · obtain ⟨-, -, hst⟩ := powerOn_refused hadm pid notifier
    rcases hst with hst | hst
    · rw [hst]
      exact h
    · rw [hst]
      exact hopen

/-- Every handler keeps the node closed or open. -/
theorem nodeInv_step {s : State} (h : NodeInv s) (r : Request) (a : Answers) : NodeInv (handle s r a).state := by
  cases r with
  | powerOn uid pid notifier => exact nodeInv_powerOn h uid pid notifier a
  | powerOff uid pid =>
    have hexit := powerOff_exit s uid pid a
    rw [handle_powerOff]
    generalize powerOff s uid pid a = o at hexit
    cases hexit with
    | refused => exact h
    | unregistered => exact h
    | kept => exact h
    | shared => exact h
    | closed => exact h
    | last _ d _ _ _ _ o ho =>
      have hrel : NodeInv (released s pid d) := h
      rw [Outcome.after_state]
      exact nodeInv_switchOff hrel ho
  | getState =>
    rw [handle_getState, (getState_eq s a).1]
    exact nodeInv_nodeAfterOpen h a
  | killall uid =>
    rw [handle_killall]
    have hexit := killall_exit s uid a
    generalize killall s uid a = o at hexit
    cases hexit with
    | refused => exact h
    | notOpened => exact nodeInv_nodeAfterOpen h a
    | opened _ _ _ _ o ho =>
      have hopen : NodeInv (clearedState s a) := nodeInv_nodeAfterOpen h a
      rw [Outcome.after_state]
      exact nodeInv_switchOff hopen ho
  | geteSEBindingStatus => exact h
  | binderDied mPid =>
    rw [handle_binderDied, binderDied_eq]
    exact h

/-- In every reachable state the node is closed or open. -/
theorem nodeInv_run (xs : List (Request × Answers)) : NodeInv (daemon.run State.init xs) :=
  Machine.run_keeps (I := NodeInv) (fun _ x h => nodeInv_step h x.1 x.2) (Or.inl rfl) xs

/-- Opening the node changes nothing when it is open or cannot be opened. -/
theorem nodeAfterOpen_eq_iff {s : State} (h : NodeInv s) (a : Answers) :
    nodeAfterOpen s a = s.nqNode ↔ 0 ≤ s.nqNode ∨ a.openFd = none := by
  unfold nodeAfterOpen openRet
  by_cases hn : s.nqNode < 0
  · have hm : s.nqNode = -1 := h.resolve_right (by omega)
    rw [if_pos hn, hm]
    cases a.openFd with
    | none => simp
    | some fd =>
      simp
  · rw [if_neg hn]
    exact iff_of_true rfl (Or.inl (Int.not_lt.1 hn))

/-! ## What an unauthorised request does -/

/-- An unauthorised `powerOn` is refused, switches no power, and spends the first call or opens the node. -/
theorem powerOn_unauthorised {uid : Int} (hu : uidAllowed uid = false) (s : State) (pid : Pid) (notifier : Option Binder)
    (a : Answers) :
    Quiet (powerOn s uid pid notifier a).calls ∧
      (powerOn s uid pid notifier a).state =
        if BindingAccepted s a then { s with isFirstCalled := false } else { s with nqNode := nodeAfterOpen s a } := by
  have hexit := powerOn_exit s uid pid notifier a
  have hasked := askedCalls_quiet s a
  generalize powerOn s uid pid notifier a = o at hexit
  cases hexit with
  | bindingRefused hb => exact ⟨hasked.append (getStateCalls_quiet s a), by rw [if_neg hb]⟩
  | uidRefused hb => exact ⟨hasked, by rw [if_pos hb]⟩
  | notOpened _ hu' =>
    rw [hu] at hu'
    cases hu'
  | admitted hadm =>
    obtain ⟨-, hu', -⟩ := hadm
    rw [hu] at hu'
    cases hu'

theorem powerOff_unauthorised {uid : Int} (hu : uidAllowed uid = false) (s : State) (pid : Pid) (a : Answers) :
    powerOff s uid pid a = ⟨s, permissionDenied, []⟩ := by
  simp [powerOff, hu]

theorem quiet_of_unauthorised {r : Request} (hr : r.Unauthorised) (s : State) (a : Answers) : Quiet (handle s r a).calls := by
  cases r with
  | powerOn uid pid notifier => exact (powerOn_unauthorised hr s pid notifier a).1
  | powerOff uid pid =>
    rw [handle_powerOff, powerOff_unauthorised hr]
    simp [Quiet]
  | getState => exact absurd hr id
  | killall => exact absurd hr id
  | geteSEBindingStatus => exact absurd hr id
  | binderDied => exact absurd hr id

/-- An unauthorised request that is turned away without a trace leaves the state; any other changes what can be noticed. -/
theorem handle_unauthorised {r : Request} (hr : r.Unauthorised) {s : State} (hn : NodeInv s) (a : Answers) :
    (Traceless s r a → (handle s r a).state = s) ∧
      ((handle s r a).state.noticed = s.noticed → Traceless s r a) := by
  cases r with
  | powerOn uid pid notifier =>
    obtain ⟨-, hst⟩ := powerOn_unauthorised hr s pid notifier a
    rw [handle_powerOn, hst]
    by_cases hb : BindingAccepted s a
    · rw [if_pos hb]
      constructor
      · intro ht
        rw [← ht.1]
      · intro hnot
        have hf : s.isFirstCalled = false := (congrArg (fun v => v.2.2) hnot).symm
        rcases hb with hb | hb | hb
        · rw [hf] at hb
          cases hb
        · exact ⟨hf, Or.inl hb⟩
        · exact ⟨hf, Or.inr (Or.inl hb)⟩
    · obtain ⟨hf, -⟩ := isPowerOnAllowed_of_not_accepted hb
      rw [if_neg hb]
      constructor
      · intro ht
        obtain ⟨-, hbr | hbr | hopen⟩ := ht
        · exact absurd (Or.inr (Or.inl hbr)) hb
        · exact absurd (Or.inr (Or.inr hbr)) hb
        · rw [(nodeAfterOpen_eq_iff hn a).2 hopen]
      · intro hnot
        have hnode : nodeAfterOpen s a = s.nqNode := congrArg (fun v => v.2.1) hnot
        exact ⟨hf, Or.inr (Or.inr ((nodeAfterOpen_eq_iff hn a).1 hnode))⟩
  | powerOff uid pid =>
    rw [handle_powerOff, powerOff_unauthorised hr]
    exact ⟨fun _ => rfl, fun _ => trivial⟩
  | getState => exact absurd hr id
  | killall => exact absurd hr id
  | geteSEBindingStatus => exact absurd hr id
  | binderDied => exact absurd hr id

/-! ## The exact condition -/

theorem powerCalls_append (os os' : List (Int × List Call)) : powerCalls (os ++ os') = powerCalls os ++ powerCalls os' := by
  simp [powerCalls]

/-- An output without power calls adds nothing to the power ioctls of a run. -/
theorem powerCalls_quiet_cons {o : Int × List Call} (h : Quiet o.2) (os : List (Int × List Call)) :
    powerCalls (o :: os) = powerCalls os := by
  have hnil : o.2.filter Call.isPower = [] := by
    rw [List.filter_eq_nil_iff]
    intro c hc
    rw [h c hc]
    exact Bool.false_ne_true
  simp [powerCalls, hnil]

/-- Leaving an unauthorised power request out of a run changes nothing for anybody else exactly when the daemon turns it away
without a trace, in the state that it meets. -/
theorem no_influence_iff (pre : List (Request × Answers)) (x : Request × Answers) (post : List (Request × Answers))
    (hx : x.1.Unauthorised) : NoInfluence pre x post ↔ Traceless (daemon.run State.init pre) x.1 x.2 := by
  obtain ⟨hkeep, hnotice⟩ := handle_unauthorised hx (nodeInv_run pre) x.2
  constructor
  · intro h
    have hnow := h.states [] List.nil_prefix
    rw [Machine.run_append, List.append_nil] at hnow
    exact hnotice hnow
  · intro h
    have hstay : daemon.next (daemon.run State.init pre) x = daemon.run State.init pre := hkeep h
    refine ⟨fun later _ => ?_, ?_, ?_⟩
    · rw [Machine.run_append_stutter hstay]
    · rw [Machine.run_append_stutter hstay, List.append_nil]
    · have hq : Quiet (daemon.out (daemon.run State.init pre) x).2 := quiet_of_unauthorised hx _ _
      rw [Machine.outs_append_stutter hstay, Machine.outs_append, powerCalls_append, powerCalls_append,
        powerCalls_quiet_cons hq]

/-- An app powers on first and is refused; the system's `powerOn` after it, with the chip bound to another device, is refused as
well. Without the app it would have been the first call, and succeeded. -/
theorem refused_app_spends_first_call :
    let app : Request × Answers := (.powerOn 10050 77 (some 9), working)
    let system : Request × Answers := (.powerOn 1000 5 (some 1), { working with bindStatus := 3 })
    app.1.Unauthorised ∧ (daemon.outs (daemon.run State.init [app]) [system]).map Prod.fst = [permissionDenied] ∧
      (daemon.outs State.init [system]).map Prod.fst = [1] ∧ ¬NoInfluence [] app [system] := by
  refine ⟨rfl, by decide, by decide, fun h => ?_⟩
  exact absurd h.replies (by decide)

/-- While the system has the eSE on, a refused app is not noticed. -/
theorem no_influence_while_powered :
    NoInfluence [(.powerOn 1000 5 (some 1), working)] (.powerOn 10050 77 (some 9), { working with bindStatus := 3 })
        [(.powerOff 1000 5, working)] ↔
      Traceless (daemon.run State.init [(.powerOn 1000 5 (some 1), working)]) (.powerOn 10050 77 (some 9))
        { working with bindStatus := 3 } :=
  no_influence_iff _ (.powerOn 10050 77 (some 9), { working with bindStatus := 3 }) _ rfl

end EseManager
