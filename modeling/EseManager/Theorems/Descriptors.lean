import EseManager.Descriptors
import EseManager.Device
import EseManager.Lemmas.Handlers

/-!
# The open descriptors are those of nq_node

Every handler leaves open exactly the descriptor it keeps in `nq_node`, and calls the device on it only, with one exception: when
`close` reports an error, the daemon keeps a descriptor that the kernel has released. `FdExit` says so for each handler, and
`descriptors_exact_iff` for whole runs.
-/

namespace EseManager

/-- The power is on once `switchOn` is done: it was on, or both ioctls succeed and no download is in progress. -/
def GetsPowered (a : Answers) : Prop :=
  has a.word (p61StateSpi ||| p61StateSpiPrio) = true ∨
    (has a.word p61StateDwnld = false ∧ 0 ≤ a.schemeRet ∧ 0 ≤ a.pwrOnRet)

/-- The device can be switched off by `switchOff`. -/
def SwitchesOff (a : Answers) : Prop := has (eseCurrentState a) p61StateDwnld = false ∧ 0 ≤ a.pwrOffRet

/-- The request closes the node: a `powerOn` without a notifier while nobody is registered, the release of the last hold, or a
`killall`, each of which has got as far as switching the eSE off. -/
def ClosesNode (s : State) (r : Request) (a : Answers) : Prop :=
  match r with
  | .powerOn uid _ none =>
    Admitted s uid a ∧ 0 ≤ a.statusRet ∧ GetsPowered a ∧ s.pidsMap.isEmpty = true ∧ 0 ≤ a.pwrOffRet
  | .powerOff uid pid =>
    uidAllowed uid = true ∧ (∃ d, s.pidsMap[pid]? = some d ∧ ¬d.clientThreadCount - 1 > 0) ∧
      (s.pidsMap.erase pid).isEmpty = true ∧ 0 ≤ s.nqNode ∧ SwitchesOff a
  | .killall uid => uidAllowed uid = true ∧ 0 ≤ nodeAfterOpen s a ∧ SwitchesOff a
  | _ => False

/-! ## What lists of calls do to the table -/

/-- With `node` open and nothing else, all calls are on open descriptors, and `fds` are open after them. -/
def Leaves (node : Int) (calls : List Call) (fds : Finset Int) : Prop :=
  fdTable.Along UsesOpen (ownFds node) calls ∧ fdTable.run (ownFds node) calls = fds

theorem ownFds_of_nonneg {node : Int} (h : 0 ≤ node) : ownFds node = {node} := if_pos h

/-- The daemon owns nothing exactly when its node is closed. -/
theorem ownFds_eq_empty_iff (node : Int) : ownFds node = ∅ ↔ node < 0 := by
  unfold ownFds
  split
  · simpa using ‹0 ≤ node›
  · simpa using ‹¬0 ≤ node›

/-- Calls one after the other. -/
theorem Leaves.append {node node' : Int} {cs ds : List Call} {fds : Finset Int} (h : Leaves node cs (ownFds node'))
    (h' : Leaves node' ds fds) : Leaves node (cs ++ ds) fds := by
  obtain ⟨halong, hrun⟩ := h
  obtain ⟨halong', hrun'⟩ := h'
  constructor
  · rw [Machine.along_append, hrun]
    exact ⟨halong, halong'⟩
  · rw [Machine.run_append, hrun, hrun']

/-- The call is on the node, which is open, or on no descriptor. -/
def On (node : Int) : Call → Prop
  | .ioctl fd _ _ => 0 ≤ node ∧ fd = node
  | .openNode _ => False
  | .closeNode _ _ => False
  | _ => True

/-- Calls on the node leave it open. -/
theorem leaves_of_on {node : Int} {cs : List Call} (h : ∀ c ∈ cs, On node c) : Leaves node cs (ownFds node) := by
  induction cs with
  | nil => exact ⟨trivial, rfl⟩
  | cons c cs ih =>
    obtain ⟨halong, hrun⟩ := ih fun d hd => h d (List.mem_cons_of_mem c hd)
    have hc := h c List.mem_cons_self
    have hnext : fdTable.next (ownFds node) c = ownFds node := by
      cases c with
      | openNode => cases hc
      | closeNode => cases hc
      | fpGeteSEBindingStatus | ioctl | linkToDeath | unlinkToDeath => rfl
    have huse : UsesOpen (ownFds node) c := by
      cases c with
      | ioctl fd req ret =>
        obtain ⟨hn, rfl⟩ := hc
        simp [UsesOpen, ownFds, hn]
      | openNode => cases hc
      | closeNode => cases hc
      | fpGeteSEBindingStatus | linkToDeath | unlinkToDeath => trivial
    constructor
    · rw [Machine.along_cons, hnext]
      exact ⟨huse, halong⟩
    · rw [Machine.run_cons, hnext]
      exact hrun

/-- Opening the node leaves the descriptor that `open` gives, or the one that was there. -/
theorem leaves_openedCalls (s : State) (a : Answers) :
    Leaves s.nqNode (openedCalls s a) (ownFds (nodeAfterOpen s a)) := by
  unfold openedCalls nodeAfterOpen
  by_cases hn : s.nqNode < 0
  · rw [if_pos hn, if_pos hn, Leaves, (ownFds_eq_empty_iff s.nqNode).2 hn]
    refine ⟨⟨trivial, trivial⟩, ?_⟩
    simp only [fdTable, Machine.run_cons, Machine.run_nil, fdsAfter, ownFds]
    split <;> rfl
  · rw [if_neg hn, if_neg hn]
    exact leaves_of_on fun c hc => absurd hc List.not_mem_nil

/-- Closing the node leaves nothing open. -/
theorem leaves_close {node : Int} (h : 0 ≤ node) (ret : Int) : Leaves node [.closeNode node ret] ∅ := by
  rw [Leaves, ownFds_of_nonneg h]
  constructor
  · simp [UsesOpen]
  · simp [fdTable, fdsAfter]

/-- Switching off and closing the node leaves nothing open. -/
theorem leaves_offAndClose {node : Int} (h : 0 ≤ node) (offRet closeRet : Int) :
    Leaves node [.ioctl node (.setSpmPwr 0) offRet, .closeNode node closeRet] ∅ := by
  have hoff : Leaves node [.ioctl node (.setSpmPwr 0) offRet] (ownFds node) := leaves_of_on (by simp [On, h])
  exact hoff.append (leaves_close h closeRet)

/-- Asking for the binding status opens nothing. -/
theorem leaves_askedCalls (s : State) (a : Answers) (node : Int) : Leaves node (askedCalls s a) (ownFds node) := by
  refine leaves_of_on fun c hc => ?_
  unfold askedCalls at hc
  split at hc
  · cases hc
  · rw [List.mem_singleton.1 hc]
    trivial

/-- Unlinking opens and closes nothing. -/
theorem leaves_unlinks {cs : List Call} (h : Unlinks cs) (node : Int) : Leaves node cs (ownFds node) := by
  refine leaves_of_on fun c hc => ?_
  obtain ⟨cb, n, rfl⟩ := h c hc
  trivial

/-! ## What each handler does to the table -/

/-- What a handler leaves open: the descriptor it keeps, or, when it closes the node, nothing, though it keeps the descriptor if
`close` reports an error. -/
inductive FdExit (s : State) (a : Answers) (closes : Prop) (o : Outcome) : Prop where
  | kept (hc : ¬closes) (h : Leaves s.nqNode o.calls (ownFds o.state.nqNode))
  | closed (hc : closes) (h : Leaves s.nqNode o.calls ∅) (node : Int) (hn : 0 ≤ node)
      (hnode : o.state.nqNode = if a.closeRet ≠ 0 then node else -1)

/-- The calls that switch the eSE on are on the node. -/
theorem leaves_switched {s : State} {a : Answers} {word : BitVec 32} {r : Option Int} {switched : List Call}
    (hn : 0 ≤ s.nqNode) (h : SwitchExit s word a (r, switched)) : Leaves s.nqNode switched (ownFds s.nqNode) := by
  refine leaves_of_on ?_
  cases h <;> simp [On, hn]

theorem leaves_statusCall {s : State} (hn : 0 ≤ s.nqNode) (a : Answers) :
    Leaves s.nqNode [statusCall s a] (ownFds s.nqNode) :=
  leaves_of_on (by simp [On, statusCall, hn])

/-- `switchOn` lets `powerOn` go on exactly when it leaves the power on. -/
theorem getsPowered_iff {s : State} {a : Answers} {r : Option Int} {switched : List Call}
    (h : SwitchExit s a.word a (r, switched)) : GetsPowered a ↔ r = none := by
  unfold GetsPowered
  cases h with
  | alreadyOn hon => simp [hon]
  | downloading hoff hd => simp [hoff, hd]
  | schemeFailed hoff hd hs =>
    refine iff_of_false ?_ (by simp)
    rintro (hon | ⟨-, hs', -⟩)
    · rw [hoff] at hon
      cases hon
    · omega
  | powerFailed hoff hd _ hp =>
    refine iff_of_false ?_ (by simp)
    rintro (hon | ⟨-, -, hp'⟩)
    · rw [hoff] at hon
      cases hon
    · omega
  | switched hoff hd hs hp => exact iff_of_true (Or.inr ⟨hd, hs, hp⟩) rfl

/-- The end of `powerOn` closes the node when there is no notifier, nobody is registered and the eSE is switched off again. -/
theorem register_fds {s : State} (hn : 0 ≤ s.nqNode) {pid : Pid} {notifier : Option Binder} {a : Answers} {o : Outcome}
    (h : RegisterExit s pid notifier a o) :
    FdExit s a (notifier = none ∧ s.pidsMap.isEmpty = true ∧ 0 ≤ a.pwrOffRet) o := by
  cases h with
  | shared hno he =>
    refine .kept ?_ (leaves_of_on fun c hc => absurd hc List.not_mem_nil)
    rintro ⟨-, he', -⟩
    rw [he] at he'
    cases he'
  | undoFailed hno he hr =>
    refine .kept ?_ (leaves_of_on (by simp [On, hn]))
    rintro ⟨-, -, hr'⟩
    omega
  | undone hno he hr node hnode =>
    refine .closed ⟨hno, he, hr⟩ ?_ s.nqNode hn hnode
    exact leaves_offAndClose hn a.pwrOffRet a.closeRet
  | linkFailed cb hno _ =>
    refine .kept ?_ (leaves_of_on (by simp [On]))
    rintro ⟨hno', -⟩
    rw [hno] at hno'
    cases hno'
  | registered cb hno _ =>
    refine .kept ?_ (leaves_of_on (by simp [On]))
    rintro ⟨hno', -⟩
    rw [hno] at hno'
    cases hno'

/-- Calls before a handler's own that open the node leave its own end to decide. -/
theorem FdExit.after {s s' : State} {a : Answers} {closes : Prop} {o : Outcome} (h : FdExit s' a closes o)
    {calls : List Call} (hcalls : Leaves s.nqNode calls (ownFds s'.nqNode)) : FdExit s a closes (o.after calls) := by
  cases h with
  | kept hc h => exact .kept hc (hcalls.append h)
  | closed hc h node hn hnode => exact .closed hc (hcalls.append h) node hn hnode

/-- The condition may be put in other words. -/
theorem FdExit.congr {s : State} {a : Answers} {closes closes' : Prop} {o : Outcome} (h : FdExit s a closes o)
    (hiff : closes' ↔ closes) : FdExit s a closes' o := by
  cases h with
  | kept hc h => exact .kept (fun hc' => hc (hiff.1 hc')) h
  | closed hc h node hn hnode => exact .closed (hiff.2 hc) h node hn hnode

/-- With the node open, `powerOn` closes it when it has got the eSE powered and nobody is registered in the end. -/
theorem powerOnNode_fds {s : State} (hn : 0 ≤ s.nqNode) {pid : Pid} {notifier : Option Binder} {a : Answers}
    {o : Outcome} (h : NodeExit s pid notifier a o) :
    FdExit s a (0 ≤ a.statusRet ∧ GetsPowered a ∧ notifier = none ∧ s.pidsMap.isEmpty = true ∧ 0 ≤ a.pwrOffRet) o := by
  have hstatus := leaves_statusCall hn a
  cases h with
  | statusFailed hst =>
    refine .kept ?_ hstatus
    rintro ⟨hst', -⟩
    omega
  | switchFailed hst ret switched hs =>
    refine .kept ?_ (hstatus.append (leaves_switched hn hs))
    rintro ⟨-, hp, -⟩
    rw [getsPowered_iff hs] at hp
    cases hp
  | on hst switched hs o hr =>
    have hp : GetsPowered a := (getsPowered_iff hs).2 rfl
    exact ((register_fds hn hr).after (hstatus.append (leaves_switched hn hs))).congr (by simp [hst, hp])

/-- When `powerOn` closes the node. -/
theorem closesNode_powerOn_iff (s : State) (uid : Int) (pid : Pid) (notifier : Option Binder) (a : Answers) :
    ClosesNode s (.powerOn uid pid notifier) a ↔ Admitted s uid a ∧ 0 ≤ a.statusRet ∧ GetsPowered a ∧ notifier = none ∧
      s.pidsMap.isEmpty = true ∧ 0 ≤ a.pwrOffRet := by
  cases notifier <;> simp [ClosesNode]

/-- What `powerOn` does to the node. -/
theorem powerOn_fds (s : State) (uid : Int) (pid : Pid) (notifier : Option Binder) (a : Answers) :
    FdExit s a (ClosesNode s (.powerOn uid pid notifier) a) (powerOn s uid pid notifier a) := by
  rw [closesNode_powerOn_iff]
  have hexit := powerOn_exit s uid pid notifier a
  have hasked := leaves_askedCalls s a s.nqNode
  have hopened := leaves_openedCalls s a
  generalize powerOn s uid pid notifier a = o at hexit
  cases hexit with
  | bindingRefused hb =>
    refine .kept (fun h => hb h.1.1) (hasked.append (hopened.append (leaves_of_on fun c hc => ?_)))
    split at hc
    · cases hc
    · rename_i hn
      rw [List.mem_singleton.1 hc]
      exact ⟨Int.not_lt.1 hn, rfl⟩
  | uidRefused _ hu =>
    refine .kept ?_ hasked
    rintro ⟨⟨-, hu', -⟩, -⟩
    rw [hu] at hu'
    cases hu'
  | notOpened _ _ hn =>
    refine .kept ?_ (hasked.append hopened)
    rintro ⟨⟨-, -, hn'⟩, -⟩
    omega
  | admitted hadm o ho =>
    have hn : 0 ≤ (admittedState s a).nqNode := hadm.2.2
    exact ((powerOnNode_fds hn ho).after (hasked.append hopened)).congr (by simp [hadm, admittedState])

/-- `switchOff` closes the node when it switches the eSE off. -/
theorem switchOff_fds {s : State} (hn : 0 ≤ s.nqNode) {a : Answers} {done : Int} {o : Outcome}
    (h : SwitchOffExit s a done o) : FdExit s a (SwitchesOff a) o := by
  have hstatus := leaves_statusCall hn a
  cases h with
  | busy hd =>
    refine .kept ?_ hstatus
    rintro ⟨hd', -⟩
    rw [hd] at hd'
    cases hd'
  | offFailed _ hr =>
    refine .kept ?_ (hstatus.append (leaves_of_on (by simp [On, hn])))
    rintro ⟨-, hr'⟩
    omega
  | off hd hr node hnode =>
    refine .closed ⟨hd, hr⟩ (hstatus.append ?_) s.nqNode hn hnode
    exact leaves_offAndClose hn a.pwrOffRet a.closeRet

/-- What `powerOff` does to the node. -/
theorem powerOff_fds (s : State) (uid : Int) (pid : Pid) (a : Answers) :
    FdExit s a (ClosesNode s (.powerOff uid pid) a) (powerOff s uid pid a) := by
  have hexit := powerOff_exit s uid pid a
  generalize powerOff s uid pid a = o at hexit
  have hunlinked : ∀ d, Leaves s.nqNode (unlink s d).2 (ownFds s.nqNode) :=
    fun d => leaves_unlinks (unlink_unlinks s d) s.nqNode
  cases hexit with
  | refused hu =>
    refine .kept ?_ (leaves_of_on fun c hc => absurd hc List.not_mem_nil)
    rintro ⟨hu', -⟩
    rw [hu] at hu'
    cases hu'
  | unregistered _ hm =>
    refine .kept ?_ (leaves_of_on fun c hc => absurd hc List.not_mem_nil)
    rintro ⟨-, ⟨d, hm', -⟩, -⟩
    rw [hm] at hm'
    cases hm'
  | kept _ d hm hc =>
    refine .kept ?_ (hunlinked d)
    rintro ⟨-, ⟨d', hm', hc'⟩, -⟩
    rw [hm, Option.some.injEq] at hm'
    subst hm'
    exact hc' hc
  | shared _ d _ _ he =>
    refine .kept ?_ (hunlinked d)
    rintro ⟨-, -, he', -⟩
    rw [he] at he'
    cases he'
  | closed _ d _ _ _ hn =>
    refine .kept ?_ (hunlinked d)
    rintro ⟨-, -, -, hn', -⟩
    omega
  | last hu d hm hc he hn o ho =>
    have hcalls : Leaves s.nqNode (unlink s d).2 (ownFds (released s pid d).nqNode) := hunlinked d
    have hnode : 0 ≤ (released s pid d).nqNode := hn
    refine ((switchOff_fds hnode ho).after hcalls).congr ⟨fun h => h.2.2.2.2, fun h => ?_⟩
    exact ⟨hu, ⟨d, hm, hc⟩, he, hn, h⟩

/-- What `killall` does to the node. -/
theorem killall_fds (s : State) (uid : Int) (a : Answers) :
    FdExit s a (ClosesNode s (.killall uid) a) (killall s uid a) := by
  have hexit := killall_exit s uid a
  have hopened := leaves_openedCalls s a
  generalize killall s uid a = o at hexit
  cases hexit with
  | refused hu =>
    refine .kept ?_ (leaves_of_on fun c hc => absurd hc List.not_mem_nil)
    rintro ⟨hu', -⟩
    rw [hu] at hu'
    cases hu'
  | notOpened _ unlinked hc hn =>
    refine .kept ?_ ((leaves_unlinks hc s.nqNode).append hopened)
    rintro ⟨-, hn', -⟩
    omega
  | opened hu unlinked hc hn o ho =>
    have hnode : 0 ≤ (clearedState s a).nqNode := hn
    exact ((switchOff_fds hnode ho).after ((leaves_unlinks hc s.nqNode).append hopened)).congr
      ⟨fun h => h.2.2, fun h => ⟨hu, hn, h⟩⟩

/-- What every handler leaves open. -/
theorem handle_fds (s : State) (r : Request) (a : Answers) : FdExit s a (ClosesNode s r a) (handle s r a) := by
  cases r with
  | powerOn uid pid notifier => exact powerOn_fds s uid pid notifier a
  | powerOff uid pid => exact powerOff_fds s uid pid a
  | getState =>
    obtain ⟨hst, hcalls⟩ := getState_eq s a
    refine .kept id ?_
    rw [handle_getState, hst, hcalls]
    refine (leaves_openedCalls s a).append (leaves_of_on fun c hc => ?_)
    split at hc
    · cases hc
    · rename_i hn
      rw [List.mem_singleton.1 hc]
      exact ⟨Int.not_lt.1 hn, rfl⟩
  | killall uid => exact killall_fds s uid a
  | geteSEBindingStatus => exact .kept id (leaves_of_on (by simp [handle, On]))
  | binderDied mPid =>
    rw [handle_binderDied, binderDied_eq]
    refine .kept id (leaves_of_on fun c hc => ?_)
    split at hc
    · rename_i hn
      rw [List.mem_singleton.1 hc]
      exact ⟨hn.2, rfl⟩
    · cases hc

/-! ## The exact condition -/

/-- The open descriptors are the one in `nq_node`, or none when there is none. -/
def FdsExact (p : State × Finset Int) : Prop := p.2 = ownFds p.1.nqNode

instance (p : State × Finset Int) : Decidable (FdsExact p) := inferInstanceAs (Decidable (p.2 = ownFds p.1.nqNode))

/-- A step keeps the descriptors exact unless it closes the node and `close` reports an error. -/
theorem fdsExact_step {p : State × Finset Int} (h : FdsExact p) (x : Request × Answers) :
    FdsExact (daemonFds.next p x) ↔ ¬(ClosesNode p.1 x.1 x.2 ∧ x.2.closeRet ≠ 0) := by
  have hnext : FdsExact (daemonFds.next p x) ↔
      fdTable.run (ownFds p.1.nqNode) (handle p.1 x.1 x.2).calls = ownFds (handle p.1 x.1 x.2).state.nqNode := by
    rw [← h]
    exact Iff.rfl
  rw [hnext]
  cases handle_fds p.1 x.1 x.2 with
  | kept hc hl => exact iff_of_true hl.2 (fun hcl => hc hcl.1)
  | closed hc hl node hn hnode =>
    rw [hl.2, hnode, eq_comm, ownFds_eq_empty_iff]
    by_cases hret : x.2.closeRet = 0
    · simp [hret]
    · rw [if_pos hret]
      exact iff_of_false (Int.not_lt.2 hn) (fun hn' => hn' ⟨hc, hret⟩)

/-- From exact descriptors, a step uses open descriptors only. -/
theorem usesOpen_step {p : State × Finset Int} (h : FdsExact p) (x : Request × Answers) :
    fdTable.Along UsesOpen p.2 (handle p.1 x.1 x.2).calls := by
  rw [h]
  cases handle_fds p.1 x.1 x.2 with
  | kept _ hl => exact hl.1
  | closed _ hl => exact hl.1

/-- Over every run: the descriptors that the daemon has open are exactly the one in `nq_node`, none when it is negative, in every
state, and every ioctl and close is on an open descriptor, exactly when no step closes the node with an error. -/
theorem descriptors_exact_iff (xs : List (Request × Answers)) :
    (daemonFds.Always FdsExact (State.init, ∅) xs ∧
      daemonFds.Along (fun p x => fdTable.Along UsesOpen p.2 (handle p.1 x.1 x.2).calls) (State.init, ∅) xs) ↔
      daemon.Along (fun s x => ¬(ClosesNode s x.1 x.2 ∧ x.2.closeRet ≠ 0)) State.init xs := by
  have hinit : FdsExact (State.init, ∅) := ((ownFds_eq_empty_iff State.init.nqNode).2 (by decide)).symm
  have hiff : daemonFds.Always FdsExact (State.init, ∅) xs ↔
      daemonFds.Along (fun p x => ¬(ClosesNode p.1 x.1 x.2 ∧ x.2.closeRet ≠ 0)) (State.init, ∅) xs :=
    Machine.always_iff_along (P := fun _ _ => True) (I := fun _ => True) (fun _ _ _ _ => trivial)
      (fun p x _ _ h => fdsExact_step h x) trivial hinit (daemonFds.along_of_forall_mem (fun _ _ _ => trivial) _)
  have htrack := daemon.track_along (fun fds _ o => fdTable.run fds o.2)
    (fun s x => ¬(ClosesNode s x.1 x.2 ∧ x.2.closeRet ≠ 0)) State.init (∅ : Finset Int) xs
  constructor
  · rintro ⟨halways, -⟩
    exact htrack.1 (hiff.1 halways)
  · intro h
    have hkept := htrack.2 h
    refine ⟨hiff.2 hkept, Machine.along_of_inv (I := FdsExact) (fun p x hp hx => ?_) hinit hkept⟩
    exact ⟨(fdsExact_step hp x).2 hx, usesOpen_step hp x⟩

/-- The only client powers off and `close` reports an error: the daemon keeps a descriptor that is not open, and the next `powerOn`
calls the device on it. -/
theorem descriptors_dangle_after_close :
    let xs : List (Request × Answers) :=
      [(.powerOn 1000 5 (some 1), working), (.powerOff 1000 5, { working with closeRet := -1 })]
    let p := daemonFds.run (State.init, ∅) xs
    p.1.nqNode = 3 ∧ p.2 = ∅ ∧ ¬daemonFds.Always FdsExact (State.init, ∅) xs ∧
      ¬fdTable.Along UsesOpen p.2 (powerOn p.1 1000 5 (some 1) working).calls := by
  refine ⟨by decide, by decide, fun h => ?_, by decide⟩
  exact absurd (h _ (List.prefix_refl _)) (by decide)

end EseManager
