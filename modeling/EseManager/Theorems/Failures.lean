import EseManager.Device
import EseManager.Registrations

/-!
# What a failed request leaves behind

Neither `powerOff` nor `powerOn` is atomic in its failures. `powerOff` erases the entry of its caller before it asks the device,
so that a failure of the device is found with nobody registered (`powerOff_keeps_iff`). `powerOn` switches the eSE on before it
registers its caller, and of the exits in between only the one without a notifier switches it off again
(`powerOn_traceless_iff`).
-/

namespace EseManager

/-! ## powerOff -/

/-- A request that fails leaves the registrations, their counts and their death links as they were. -/
def FailureKeeps (s : State) (o : Outcome) : Prop :=
  o.ret < 0 → o.state.pidsMap = s.pidsMap ∧ o.state.links = s.links

/-- `powerOff` would release the last hold of all and fail at the device: the status query fails, a firmware download is in
progress, or the eSE cannot be switched off. -/
def LastReleaseFails (s : State) (pid : Pid) (a : Answers) : Prop :=
  (∀ d, s.pidsMap[pid]? = some d → ¬d.clientThreadCount - 1 > 0) ∧ (s.pidsMap.erase pid).isEmpty = true ∧
    0 ≤ s.nqNode ∧ (a.statusRet < 0 ∨ has a.word p61StateDwnld = true ∨ a.pwrOffRet < 0)

/-- Switching off fails exactly when the status query, the download bit or the power ioctl says so. -/
theorem switchOff_neg_iff {s : State} {a : Answers} {o : Outcome} (h : SwitchOffExit s a 0 o) :
    o.ret < 0 ↔ a.statusRet < 0 ∨ has a.word p61StateDwnld = true ∨ a.pwrOffRet < 0 := by
  rw [← or_assoc, ← has_eseCurrentState_dwnld]
  cases h with
  | busy hd => exact iff_of_true (show -ebusy < 0 by decide) (Or.inl hd)
  | offFailed hd hr => exact iff_of_true hr (Or.inr hr)
  | off hd hr node hnode =>
    refine iff_of_false (by simp) ?_
    rintro (hd' | hr')
    · rw [hd] at hd'
      cases hd'
    · omega

/-- For a registered, authorised caller: a failed `powerOff` changes nothing, exactly when it is not the last release failing at
the device. -/
theorem powerOff_keeps_iff (s : State) (uid : Int) (pid : Pid) (a : Answers) (hu : uidAllowed uid = true)
    (hp : pid ∈ s.pidsMap) : FailureKeeps s (powerOff s uid pid a) ↔ ¬LastReleaseFails s pid a := by
  have hexit := powerOff_exit s uid pid a
  generalize powerOff s uid pid a = o at hexit
  have hone : ¬(1 : Int) < 0 := by decide
  cases hexit with
  | refused hu' =>
    rw [hu] at hu'
    cases hu'
  | unregistered _ hm =>
    rw [Std.ExtTreeMap.mem_iff_isSome_getElem?, hm] at hp
    cases hp
  | kept _ d hm hc =>
    refine iff_of_true (fun h => absurd h hone) ?_
    rintro ⟨hall, -⟩
    exact hall d hm hc
  | shared _ d hm hc he =>
    refine iff_of_true (fun h => absurd h hone) ?_
    rintro ⟨-, he', -⟩
    rw [he] at he'
    cases he'
  | closed _ d hm hc he hn =>
    refine iff_of_true (fun h => absurd h (Int.lt_irrefl 0)) ?_
    rintro ⟨-, -, hn', -⟩
    omega
  | last _ d hm hc he hn o ho =>
    have hall : ∀ d', s.pidsMap[pid]? = some d' → ¬d'.clientThreadCount - 1 > 0 := by
      intro d' hm'
      rw [hm, Option.some.injEq] at hm'
      subst hm'
      exact hc
    have hneg := switchOff_neg_iff ho
    constructor
    · rintro hk ⟨-, -, -, hf⟩
      obtain ⟨hmap, -⟩ := hk (hneg.2 hf)
      rw [Outcome.after_state, (sameClients_switchOff ho).pidsMap] at hmap
      have herased : pid ∉ s.pidsMap.erase pid := by simp
      have hmap' : s.pidsMap.erase pid = s.pidsMap := hmap
      rw [hmap'] at herased
      exact herased hp
    · intro hf hret
      exact absurd ⟨hall, he, hn, hneg.1 hret⟩ hf

/-- A hold is taken and released during a firmware download: `powerOff` fails with `-EBUSY`, but the caller and its death link
are gone, and so the retry is answered -1. -/
theorem powerOff_busy_forgets_caller :
    let s := daemon.run State.init [(.powerOn 1000 5 (some 1), working)]
    let busy := { working with word := 0x0c00#32 }
    uidAllowed 1000 = true ∧ 5 ∈ s.pidsMap ∧ (powerOff s 1000 5 busy).ret = -ebusy ∧
      (powerOff s 1000 5 busy).state.pidsMap.isEmpty = true ∧ (powerOff s 1000 5 busy).state.links = [] ∧
      (powerOff (powerOff s 1000 5 busy).state 1000 5 working).ret = -1 ∧ ¬FailureKeeps s (powerOff s 1000 5 busy) := by
  refine ⟨by decide, by decide, by decide, by decide, by decide, by decide, fun h => ?_⟩
  obtain ⟨-, hl⟩ := h (by decide)
  exact absurd hl (by decide)

/-- With another client registered, the same failing device does not matter. -/
theorem powerOff_keeps_shared :
    FailureKeeps (daemon.run State.init [(.powerOn 1000 5 (some 1), working), (.powerOn 1001 6 (some 2), working)])
        (powerOff (daemon.run State.init [(.powerOn 1000 5 (some 1), working), (.powerOn 1001 6 (some 2), working)]) 1000 5
          { working with word := 0x0c00#32 }) ↔
      ¬LastReleaseFails (daemon.run State.init [(.powerOn 1000 5 (some 1), working), (.powerOn 1001 6 (some 2), working)]) 5
        { working with word := 0x0c00#32 } :=
  powerOff_keeps_iff _ 1000 5 _ (by decide) (by decide)

/-! ## powerOn -/

/-- A `powerOn` that fails leaves the registrations as they were, and the eSE without SPI power if it had none. -/
def FailureTraceless (s : State) (a : Answers) (o : Outcome) : Prop :=
  o.ret < 0 → o.state.pidsMap = s.pidsMap ∧ (¬SpiPower a.word → ¬SpiPower (wordAfterAll a.word o.calls))

/-- The status word shows the eSE off and idle, and switching it on succeeds. -/
def SwitchesOn (a : Answers) : Prop :=
  0 ≤ a.statusRet ∧ has a.word (p61StateSpi ||| p61StateSpiPrio) = false ∧ has a.word p61StateDwnld = false ∧
    0 ≤ a.schemeRet ∧ 0 ≤ a.pwrOnRet

/-- `powerOn` fails after the eSE is on, at a place where it does not switch it off again: the death link cannot be made, or there
is no notifier while the map has other entries. -/
def FailsSwitchedOn (s : State) (uid : Int) (notifier : Option Binder) (a : Answers) : Prop :=
  Admitted s uid a ∧ SwitchesOn a ∧
    match notifier with
    | some _ => a.linkRet ≠ noError
    | none => s.pidsMap.isEmpty = false

/-- An early return of `switchOn` leaves the status word. -/
theorem wordAfterAll_switchFailed {s : State} {word : BitVec 32} {a : Answers} {ret : Int} {switched : List Call}
    (h : SwitchExit s word a (some ret, switched)) : wordAfterAll word switched = word := by
  cases h with
  | downloading => rfl
  | schemeFailed => rfl
  | powerFailed _ _ _ hp => simp [wordAfterAll, wordAfter, hp]

/-- Without an early return, the eSE is either on already, and nothing is called, or switched on. -/
theorem switchExit_none {s : State} {a : Answers} (hst : 0 ≤ a.statusRet) {switched : List Call}
    (h : SwitchExit s a.word a (none, switched)) :
    (has a.word (p61StateSpi ||| p61StateSpiPrio) = true ∧ wordAfterAll a.word switched = a.word) ∨
      (SwitchesOn a ∧ ¬SpiPower a.word ∧ wordAfterAll a.word switched = a.word ||| p61StateSpi) := by
  cases h with
  | alreadyOn hon => exact Or.inl ⟨hon, rfl⟩
  | switched hoff hd hs hp =>
    refine Or.inr ⟨⟨hst, hoff, hd, hs, hp⟩, ?_, wordAfter_on s.nqNode hp a.word⟩
    intro hspi
    rw [has_or, hspi] at hoff
    cases hoff

/-- The end of `powerOn` leaves a trace exactly where it fails without switching off. -/
theorem register_traceless_iff {s : State} {uid : Int} {pid : Pid} {notifier : Option Binder} {a : Answers}
    (hadm : Admitted s uid a) (hst : 0 ≤ a.statusRet) (hoff : 0 ≤ a.pwrOffRet) {switched : List Call}
    (hs : SwitchExit (admittedState s a) a.word a (none, switched)) {o : Outcome}
    (hr : RegisterExit (admittedState s a) pid notifier a o) :
    (o.ret < 0 → o.state.pidsMap = s.pidsMap ∧
        (¬SpiPower a.word → ¬SpiPower (wordAfterAll (wordAfterAll a.word switched) o.calls))) ↔
      ¬FailsSwitchedOn s uid notifier a := by
  have hnot : ∀ w, wordAfterAll a.word switched = a.word → w = wordAfterAll a.word switched →
      ¬SpiPower a.word → ¬SpiPower w := by
    intro w hw hw' hspi
    rw [hw', hw]
    exact hspi
  have hclear : ∀ cs : List Call, wordAfterAll (wordAfterAll a.word switched)
      (.ioctl (admittedState s a).nqNode (.setSpmPwr 0) a.pwrOffRet :: .closeNode (admittedState s a).nqNode a.closeRet ::
        cs) = wordAfterAll (wordAfterAll a.word switched &&& ~~~p61StateSpi) cs := by
    intro cs
    rw [← wordAfter_off (admittedState s a).nqNode hoff]
    rfl
  rcases switchExit_none hst hs with ⟨hon, hw⟩ | ⟨hsw, hspi, hw⟩
  · -- nothing was switched on, so there is nothing to undo
    have hok : ¬FailsSwitchedOn s uid notifier a := by
      rintro ⟨-, ⟨-, hoff', -⟩, -⟩
      rw [hon] at hoff'
      cases hoff'
    refine iff_of_true ?_ hok
    intro hret
    cases hr with
    | shared => exact ⟨rfl, hnot _ hw rfl⟩
    | undoFailed _ _ hr => omega
    | undone _ he hr node hnode =>
      refine ⟨rfl, fun _ => ?_⟩
      rw [hclear []]
      exact not_spiPower_clear _
    | linkFailed => exact ⟨rfl, hnot _ hw rfl⟩
    | registered => exact absurd hret (by simp)
  · have hset : SpiPower (wordAfterAll a.word switched) := by
      rw [hw]
      exact spiPower_set a.word
    cases hr with
    | shared hn he =>
      refine iff_of_false (fun h => ?_) (fun h => h ⟨hadm, hsw, by rw [hn]; exact he⟩)
      exact (h (by simp)).2 hspi hset
    | undoFailed _ _ hr => omega
    | undone hn he hr node hnode =>
      refine iff_of_true (fun _ => ⟨rfl, fun _ => ?_⟩) ?_
      · rw [hclear []]
        exact not_spiPower_clear _
      · rintro ⟨-, -, hm⟩
        rw [hn] at hm
        have he' : s.pidsMap.isEmpty = true := he
        rw [he'] at hm
        cases hm
    | linkFailed cb hn hl =>
      refine iff_of_false (fun h => ?_) (fun h => h ⟨hadm, hsw, by rw [hn]; exact hl⟩)
      exact (h (by simp)).2 hspi hset
    | registered cb hn hl =>
      refine iff_of_true (fun hret => absurd hret (by simp)) ?_
      rintro ⟨-, -, hm⟩
      rw [hn] at hm
      exact hm hl

/-- When power-offs succeed: a failed `powerOn` leaves no trace, exactly when it does not fail at one of the places after the
switching on that do not undo it. -/
theorem powerOn_traceless_iff (s : State) (uid : Int) (pid : Pid) (notifier : Option Binder) (a : Answers)
    (hoff : 0 ≤ a.pwrOffRet) :
    FailureTraceless s a (powerOn s uid pid notifier a) ↔ ¬FailsSwitchedOn s uid notifier a := by
  by_cases hadm : Admitted s uid a
  · have heq := powerOn_admitted hadm pid notifier
    have hq := admittedCalls_quiet s a
    have hexit := powerOnNode_exit (admittedState s a) pid notifier a
    unfold FailureTraceless
    rw [heq, Outcome.after_ret, Outcome.after_state, Outcome.after_calls, wordAfterAll_quiet_append hq]
    generalize powerOnNode (admittedState s a) pid notifier a = o at hexit
    cases hexit with
    | statusFailed hst =>
      refine iff_of_true (fun _ => ⟨rfl, id⟩) ?_
      rintro ⟨-, ⟨hst', -⟩, -⟩
      omega
    | switchFailed hst ret switched hs =>
      have hw := wordAfterAll_switchFailed hs
      refine iff_of_true (fun _ => ⟨rfl, fun h => ?_⟩) ?_
      · rw [← hw] at h
        exact h
      · rintro ⟨-, ⟨-, hoff', hd', hsr, hpr⟩, -⟩
        cases hs with
        | downloading _ hd =>
          rw [hd'] at hd
          cases hd
        | schemeFailed _ _ h => omega
        | powerFailed _ _ _ h => omega
    | on hst switched hs o hr =>
      rw [Outcome.after_ret, Outcome.after_state, Outcome.after_calls, wordAfterAll_append]
      exact register_traceless_iff hadm hst hoff hs hr
  · obtain ⟨-, hq, hst⟩ := powerOn_refused hadm pid notifier
    refine iff_of_true (fun _ => ⟨?_, fun h => ?_⟩) (fun h => hadm h.1)
    · rcases hst with hst | hst
      · rw [hst]
      · rw [hst]
    · rw [wordAfterAll_of_quiet hq]
      exact h

/-- A fresh daemon, the eSE off, and a callback whose death cannot be linked: `powerOn` fails, nobody is registered, and the eSE
stays on. -/
theorem powerOn_link_failure_leaves_power :
    let a := { working with word := 0x0100#32, linkRet := -32 }
    (powerOn State.init 1000 5 (some 1) a).ret = -1 ∧ ¬SpiPower a.word ∧
      (powerOn State.init 1000 5 (some 1) a).state.pidsMap.isEmpty = true ∧
      SpiPower (wordAfterAll a.word (powerOn State.init 1000 5 (some 1) a).calls) ∧
      ¬FailureTraceless State.init a (powerOn State.init 1000 5 (some 1) a) := by
  refine ⟨by decide, by decide, by decide, by decide, fun h => ?_⟩
  exact (h (by decide)).2 (by decide) (by decide)

/-- Without a notifier, a fresh daemon leaves no trace: it switches the eSE off again. -/
theorem powerOn_traceless_without_notifier :
    FailureTraceless State.init { working with word := 0x0100#32 }
        (powerOn State.init 1000 5 none { working with word := 0x0100#32 }) ↔
      ¬FailsSwitchedOn State.init 1000 none { working with word := 0x0100#32 } :=
  powerOn_traceless_iff State.init 1000 5 none { working with word := 0x0100#32 } (by decide)

end EseManager
