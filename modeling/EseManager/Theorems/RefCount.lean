import EseManager.Device
import EseManager.Registrations

/-!
# The daemon is a reference count of the eSE

While every call to the device and Binder succeeds and nobody else touches the status word, the daemon implements the abstract
machine of `Holds`: the map holds the counts, and the eSE has SPI power exactly while somebody holds it.

`PlantInv` is the invariant between the map, the node and the status word. It does not mention the holds: those follow the map
(`tracks_step`), so that every statement about them is read off the map.
-/

namespace EseManager

/-- The map, the node and the status word fit together: the eSE has SPI power exactly while a pid is registered, nothing else
is going on, and the node is open while a pid is registered. -/
structure PlantInv (s : State) (word : BitVec 32) : Prop where
  power : SpiPower word ↔ s.pidsMap.isEmpty = false
  idle : NoConflict word
  node : s.pidsMap.isEmpty = false → 0 ≤ s.nqNode

/-! ## Keeping the invariant -/

/-- With power on and somebody registered, the invariant asks for the node. -/
theorem PlantInv.of_on {s : State} {word : BitVec 32} (hi : NoConflict word) (hp : SpiPower word)
    (hm : s.pidsMap.isEmpty = false) (hn : 0 ≤ s.nqNode) : PlantInv s word :=
  ⟨⟨fun _ => hm, fun _ => hp⟩, hi, fun _ => hn⟩

/-- After a power-off, the invariant asks for an empty map. -/
theorem PlantInv.of_off {s : State} {word : BitVec 32} (hi : NoConflict word) (hm : s.pidsMap.isEmpty = true) :
    PlantInv s (word &&& ~~~p61StateSpi) := by
  refine ⟨?_, hi.clear, ?_⟩
  · rw [hm]
    exact ⟨fun hp => absurd hp (not_spiPower_clear word), fun h => by cases h⟩
  · rw [hm]
    exact fun h => by cases h

/-- The invariant goes over to a state with somebody registered as before and the node still open, for the same word. -/
theorem PlantInv.congr {s s' : State} {word : BitVec 32} (h : PlantInv s word)
    (hm : s'.pidsMap.isEmpty = s.pidsMap.isEmpty) (hn : 0 ≤ s.nqNode → 0 ≤ s'.nqNode) : PlantInv s' word :=
  ⟨by rw [hm]; exact h.power, h.idle, by rw [hm]; exact fun he => hn (h.node he)⟩

/-! ## One lemma for each handler -/

/-- The end of `powerOn`, once the eSE is on. -/
theorem plantInv_register {s : State} {word : BitVec 32} (hi : NoConflict word) (hp : SpiPower word)
    (hn : 0 ≤ s.nqNode) {a : Answers} (ha : a.Succeeds) {pid : Pid} {notifier : Option Binder} {o : Outcome}
    (hr : RegisterExit s pid notifier a o) : PlantInv o.state (wordAfterAll word o.calls) := by
  cases hr with
  | shared _ he => exact .of_on hi hp he hn
  | undoFailed _ _ hr =>
    have := ha.pwrOff
    omega
  | undone _ he hr node _ =>
    have hw : wordAfterAll word [.ioctl s.nqNode (.setSpmPwr 0) a.pwrOffRet, .closeNode s.nqNode a.closeRet] =
        word &&& ~~~p61StateSpi := wordAfter_off s.nqNode hr word
    rw [hw]
    exact .of_off hi he
  | linkFailed _ _ hl => exact absurd ha.links hl
  | registered cb _ _ => exact .of_on hi hp (addHold_isEmpty _ _ _) hn

/-- `switchOn` does not fail, and leaves the eSE with SPI power. -/
theorem switchExit_on {s s' : State} {word : BitVec 32} (h : PlantInv s word) {a : Answers} (ha : a.Succeeds)
    {ret : Option Int} {switched : List Call} (hs : SwitchExit s' word a (ret, switched)) :
    ret = none ∧ NoConflict (wordAfterAll word switched) ∧ SpiPower (wordAfterAll word switched) := by
  obtain ⟨hp, hd⟩ := h.idle
  cases hs with
  | alreadyOn hon =>
    rw [has_or, hp, Bool.or_false] at hon
    exact ⟨rfl, h.idle, hon⟩
  | downloading _ hd' =>
    rw [hd] at hd'
    cases hd'
  | schemeFailed _ _ hs =>
    have := ha.scheme
    omega
  | powerFailed _ _ _ hp =>
    have := ha.pwrOn
    omega
  | switched _ _ _ hp =>
    have hw : wordAfterAll word [.ioctl s'.nqNode (.setPowerScheme 2) a.schemeRet,
        .ioctl s'.nqNode (.setSpmPwr 1) a.pwrOnRet] = word ||| p61StateSpi := wordAfter_on s'.nqNode hp word
    rw [hw]
    exact ⟨rfl, h.idle.set, spiPower_set word⟩

theorem plantInv_powerOn {s : State} {word : BitVec 32} (h : PlantInv s word) {a : Answers} (ha : a.Succeeds)
    (hw : a.word = word) (uid : Int) (pid : Pid) (notifier : Option Binder) :
    PlantInv (powerOn s uid pid notifier a).state (wordAfterAll word (powerOn s uid pid notifier a).calls) := by
  have hnode := nodeAfterOpen_nonneg (s := s) ha
  by_cases hadm : Admitted s uid a
  · have heq := powerOn_admitted hadm pid notifier
    have hq := admittedCalls_quiet s a
    have hexit := powerOnNode_exit (admittedState s a) pid notifier a
    rw [heq, Outcome.after_state, Outcome.after_calls, wordAfterAll_quiet_append hq]
    generalize powerOnNode (admittedState s a) pid notifier a = o at hexit
    cases hexit with
    | statusFailed hst =>
      have := ha.status
      omega
    | switchFailed _ ret switched hs =>
      rw [hw] at hs
      obtain ⟨hnone, -⟩ := switchExit_on h ha hs
      cases hnone
    | on _ switched hs o hr =>
      rw [hw] at hs
      obtain ⟨-, hi, hp⟩ := switchExit_on h ha hs
      rw [Outcome.after_state, Outcome.after_calls, wordAfterAll_append]
      exact plantInv_register hi hp hnode ha hr
  · obtain ⟨-, hq, hst⟩ := powerOn_refused hadm pid notifier
    rw [wordAfterAll_of_quiet hq]
    rcases hst with hst | hst
    · exact h.congr (by rw [hst]) (by rw [hst]; exact id)
    · exact h.congr (by rw [hst]) (by rw [hst]; exact fun _ => hnode)

/-- Switching off with nobody registered succeeds, and leaves the eSE off. -/
theorem plantInv_switchOff {s : State} {word : BitVec 32} (hi : NoConflict word) (hm : s.pidsMap.isEmpty = true)
    {a : Answers} (ha : a.Succeeds) (hw : a.word = word) {done : Int} {o : Outcome} (ho : SwitchOffExit s a done o) :
    o.ret = done ∧ PlantInv o.state (wordAfterAll word o.calls) := by
  have hst : eseCurrentState a = word := by
    unfold eseCurrentState
    rw [if_neg (Int.not_lt.2 ha.status), hw]
  cases ho with
  | busy hd =>
    rw [hst, hi.2] at hd
    cases hd
  | offFailed _ hr =>
    have := ha.pwrOff
    omega
  | off _ hr node _ =>
    have hw' : wordAfterAll word [statusCall s a, .ioctl s.nqNode (.setSpmPwr 0) a.pwrOffRet,
        .closeNode s.nqNode a.closeRet] = word &&& ~~~p61StateSpi := wordAfter_off s.nqNode hr word
    rw [hw']
    exact ⟨rfl, .of_off hi hm⟩

theorem plantInv_powerOff {s : State} {word : BitVec 32} (h : PlantInv s word) {a : Answers} (ha : a.Succeeds)
    (hw : a.word = word) (uid : Int) (pid : Pid) :
    PlantInv (powerOff s uid pid a).state (wordAfterAll word (powerOff s uid pid a).calls) := by
  have hexit := powerOff_exit s uid pid a
  generalize powerOff s uid pid a = o at hexit
  cases hexit with
  | refused => exact h
  | unregistered => exact h
  | kept _ d hm _ =>
    rw [wordAfterAll_of_quiet (unlink_quiet s d)]
    refine h.congr ?_ id
    rw [isEmpty_eq_false_of_getElem? hm]
    simp [countedDown]
  | shared _ d hm _ he =>
    rw [wordAfterAll_of_quiet (unlink_quiet s d)]
    refine h.congr ?_ id
    rw [isEmpty_eq_false_of_getElem? hm]
    exact he
  | closed _ d hm _ _ hn =>
    have := h.node (isEmpty_eq_false_of_getElem? hm)
    omega
  | last _ d hm _ he _ o ho =>
    rw [Outcome.after_state, Outcome.after_calls, wordAfterAll_quiet_append (unlink_quiet s d)]
    exact (plantInv_switchOff (s := released s pid d) h.idle he ha hw ho).2

theorem plantInv_killall {s : State} {word : BitVec 32} (h : PlantInv s word) {a : Answers} (ha : a.Succeeds)
    (hw : a.word = word) (uid : Int) :
    PlantInv (killall s uid a).state (wordAfterAll word (killall s uid a).calls) := by
  have hexit := killall_exit s uid a
  generalize killall s uid a = o at hexit
  cases hexit with
  | refused => exact h
  | notOpened _ _ _ hn =>
    have := nodeAfterOpen_nonneg (s := s) ha
    omega
  | opened _ unlinked hc _ o ho =>
    have hq : Quiet (unlinked ++ openedCalls s a) := hc.quiet.append (openedCalls_quiet s a)
    rw [Outcome.after_state, Outcome.after_calls, wordAfterAll_quiet_append hq]
    exact (plantInv_switchOff h.idle Std.ExtTreeMap.isEmpty_empty ha hw ho).2

theorem plantInv_binderDied {s : State} {word : BitVec 32} (h : PlantInv s word) {a : Answers} (ha : a.Succeeds)
    (mPid : Pid) :
    PlantInv (binderDied s mPid a).state (wordAfterAll word (binderDied s mPid a).calls) := by
  rw [binderDied_eq]
  by_cases he : (s.pidsMap.erase mPid).isEmpty = true
  · by_cases hn : 0 ≤ s.nqNode
    · have hw : wordAfterAll word [.ioctl s.nqNode (.setSpmPwr 0) a.pwrOffRet] = word &&& ~~~p61StateSpi :=
        wordAfter_off s.nqNode ha.pwrOff word
      rw [if_pos ⟨he, hn⟩, hw]
      exact .of_off h.idle he
    · rw [if_neg (fun hc => hn hc.2)]
      refine h.congr ?_ id
      rw [State.unregister_pidsMap, he]
      cases hm : s.pidsMap.isEmpty with
      | true => rfl
      | false => exact absurd (h.node hm) hn
  · rw [if_neg (fun hc => he hc.1)]
    rw [Bool.not_eq_true] at he
    refine h.congr ?_ id
    rw [State.unregister_pidsMap, he]
    symm
    rw [Std.ExtTreeMap.isEmpty_eq_false_iff] at he ⊢
    rintro hm
    rw [hm] at he
    exact he (by simp)

/-- The invariant is kept by every handler while every call succeeds and the status word is the daemon's own. -/
theorem plantInv_step {p : Plant} (h : PlantInv p.daemon p.word) {x : Request × Answers} (ha : x.2.Succeeds) :
    PlantInv (plant.next p x).daemon (plant.next p x).word := by
  obtain ⟨r, a⟩ := x
  have ha' : Answers.Succeeds { a with word := p.word } := ha.with_word p.word
  cases r with
  | powerOn uid pid notifier => exact plantInv_powerOn h ha' rfl uid pid notifier
  | powerOff uid pid => exact plantInv_powerOff h ha' rfl uid pid
  | getState =>
    obtain ⟨hst, -⟩ := getState_eq p.daemon { a with word := p.word }
    have hq := getState_quiet p.daemon { a with word := p.word }
    have hw := wordAfterAll_of_quiet hq p.word
    have hn := nodeAfterOpen_nonneg (s := p.daemon) ha'
    simp only [plant, handle_getState]
    rw [hw, hst]
    exact h.congr rfl (fun _ => hn)
  | killall uid => exact plantInv_killall h ha' rfl uid
  | geteSEBindingStatus => exact h
  | binderDied mPid => exact plantInv_binderDied h ha' mPid

/-! ## The refinement -/

/-- The daemon with its device and, as a history variable, the holds that the replies have given out. -/
def counted : Machine (Plant × Holds Pid) (Request × Answers) (Int × List Call) :=
  plant.track fun h x o => h.apply (holdOp x.1 o.1)

/-- A freshly started daemon, with nobody holding the eSE. -/
def countedInit (word : BitVec 32) : Plant × Holds Pid := ({ daemon := State.init, word := word }, fun _ => 0)

/-- The concrete state implements the abstract one. -/
structure Implements (p : Plant) (h : Holds Pid) : Prop where
  counts : ∀ pid, threadCount p.daemon.pidsMap pid = h pid
  keys : ∀ pid, pid ∈ p.daemon.pidsMap ↔ 0 < h pid
  power : SpiPower p.word ↔ h.InUse

theorem implements_of_inv {p : Plant} {h : Holds Pid} (hp : PlantInv p.daemon p.word)
    (ht : Tracks ServiceData.count p.daemon.pidsMap h) : Implements p h := by
  refine ⟨fun pid => ?_, ht.mem_iff, ?_⟩
  · unfold threadCount
    cases hm : p.daemon.pidsMap[pid]? with
    | none => simp [ht.of_none hm]
    | some d => simpa using (ht.of_some hm).2
  · rw [hp.power, ← Bool.not_eq_true, ht.isEmpty_iff, not_not]

/-- Both invariants hold after every run in which all calls succeed and no pid reaches 2^31 holds. -/
theorem counted_inv {word : BitVec 32} (hi : NoConflict word) (hoff : ¬SpiPower word) {xs : List (Request × Answers)}
    (hs : ∀ x ∈ xs, x.2.Succeeds) (hb : counted.Always (fun p => p.2.Below (2 ^ 31)) (countedInit word) xs) :
    PlantInv (counted.run (countedInit word) xs).1.daemon (counted.run (countedInit word) xs).1.word ∧
      Tracks ServiceData.count (counted.run (countedInit word) xs).1.daemon.pidsMap
        (counted.run (countedInit word) xs).2 := by
  have hinit : PlantInv (countedInit word).1.daemon (countedInit word).1.word ∧
      Tracks ServiceData.count (countedInit word).1.daemon.pidsMap (countedInit word).2 := by
    refine ⟨⟨⟨fun h => absurd h hoff, fun h => ?_⟩, hi, fun h => ?_⟩, Tracks.empty⟩
    · exact absurd h (by simp [countedInit, State.init])
    · exact absurd h (by simp [countedInit, State.init])
  generalize countedInit word = c at hinit hb
  induction xs generalizing c with
  | nil => exact hinit
  | cons x xs ih =>
    obtain ⟨hp, ht⟩ := hinit
    rw [Machine.always_cons] at hb
    refine ih (fun y hy => hs y (List.mem_cons_of_mem x hy)) (counted.next c x) ?_ hb.2
    exact ⟨plantInv_step hp (hs x (by simp)), tracks_step ht x.1 { x.2 with word := c.1.word } hb.2.head⟩

/-- What an authorised `powerOff` replies: 0 when it releases the last hold, 1 when holds remain, -1 when its caller has none. -/
theorem powerOff_reply {s : State} {word : BitVec 32} {h : Holds Pid} (hp : PlantInv s word)
    (ht : Tracks ServiceData.count s.pidsMap h) {a : Answers} (ha : a.Succeeds) (hw : a.word = word) {uid : Int}
    (hu : uidAllowed uid = true) (pid : Pid) :
    (h.LastHold pid ∧ (powerOff s uid pid a).ret = 0) ∨
      (0 < h pid ∧ ¬h.LastHold pid ∧ (powerOff s uid pid a).ret = 1) ∨
      (h pid = 0 ∧ (powerOff s uid pid a).ret = -1) := by
  have hexit := powerOff_exit s uid pid a
  have hop : holdOp (.powerOff uid pid) (powerOff s uid pid a).ret = .release pid := by simp [holdOp, hu]
  have ht' := tracks_clients ht (powerOff_clients s uid pid a) (by simp [hop])
  rw [hop] at ht'
  generalize powerOff s uid pid a = o at hexit ht'
  cases hexit with
  | refused hu' =>
    rw [hu] at hu'
    cases hu'
  | unregistered _ hm => exact Or.inr (Or.inr ⟨ht.of_none hm, rfl⟩)
  | kept _ d hm hc =>
    have hd := ht.of_some hm
    rw [countedDown_pos_iff hd.2 hd.1] at hc
    refine Or.inr (Or.inl ⟨hd.1, ?_, rfl⟩)
    rintro ⟨h1, -⟩
    omega
  | shared _ d hm _ he =>
    refine Or.inr (Or.inl ⟨(ht.of_some hm).1, ?_, rfl⟩)
    rw [h.lastHold_iff pid (ht.of_some hm).1, not_not, ← not_not (a := Holds.InUse _), ← ht'.isEmpty_iff,
      Bool.not_eq_true]
    exact he
  | closed _ d hm _ _ hn =>
    have hne : s.pidsMap.isEmpty = false := by
      rw [← Bool.not_eq_true, ht.isEmpty_iff, not_not]
      exact ⟨pid, (ht.of_some hm).1⟩
    have := hp.node hne
    omega
  | last _ d hm _ he _ o ho =>
    refine Or.inl ⟨?_, (plantInv_switchOff (s := released s pid d) hp.idle he ha hw ho).1⟩
    rw [h.lastHold_iff pid (ht.of_some hm).1, ← ht'.isEmpty_iff, Outcome.after_state, (sameClients_switchOff ho).pidsMap]
    exact he

/-- The daemon implements the reference count of the eSE. From a freshly started daemon with the eSE off, no access on priority and no
firmware download in progress, after any sequence of requests and death notices whose calls all succeed and in which no pid reaches 2^31 holds: every
thread count is the number of holds of its pid, the pids in the map are those with holds, the eSE has SPI power exactly while
somebody holds it, and an authorised `powerOff` returns 0 exactly when it releases the last hold. -/
theorem daemon_refines_holds (word : BitVec 32) (hi : NoConflict word) (hoff : ¬SpiPower word)
    (xs : List (Request × Answers)) (hs : ∀ x ∈ xs, x.2.Succeeds)
    (hb : counted.Always (fun p => p.2.Below (2 ^ 31)) (countedInit word) xs) :
    Implements (counted.run (countedInit word) xs).1 (counted.run (countedInit word) xs).2 ∧
      ∀ (uid : Int) (pid : Pid) (a : Answers), uidAllowed uid = true → a.Succeeds →
        ((plant.out (counted.run (countedInit word) xs).1 (.powerOff uid pid, a)).1 = 0 ↔
          (counted.run (countedInit word) xs).2.LastHold pid) := by
  obtain ⟨hp, ht⟩ := counted_inv hi hoff hs hb
  refine ⟨implements_of_inv hp ht, fun uid pid a hu ha => ?_⟩
  have ha' : Answers.Succeeds { a with word := (counted.run (countedInit word) xs).1.word } := ha.with_word _
  have hreply : (plant.out (counted.run (countedInit word) xs).1 (.powerOff uid pid, a)).1 =
      (powerOff (counted.run (countedInit word) xs).1.daemon uid pid
        { a with word := (counted.run (countedInit word) xs).1.word }).ret := rfl
  rw [hreply]
  rcases powerOff_reply hp ht ha' rfl hu pid with ⟨hl, hr⟩ | ⟨-, hl, hr⟩ | ⟨h0, hr⟩
  · simp [hl, hr]
  · simp [hl, hr]
  · rw [hr]
    constructor
    · intro h
      omega
    · rintro ⟨h1, -⟩
      omega

/-- Two threads of pid 5 power the eSE on, and one of them powers it off. -/
def twoOnOneOff : List (Request × Answers) :=
  [(.powerOn 1000 5 (some 1), working), (.powerOn 1000 5 (some 2), working), (.powerOff 1000 5, working)]

/-- After two holds and one release of the same pid, the next release is the last. -/
theorem daemon_refines_holds_twoOnOneOff :
    Implements (counted.run (countedInit 0x100#32) twoOnOneOff).1 (counted.run (countedInit 0x100#32) twoOnOneOff).2 ∧
      ∀ (uid : Int) (pid : Pid) (a : Answers), uidAllowed uid = true → a.Succeeds →
        ((plant.out (counted.run (countedInit 0x100#32) twoOnOneOff).1 (.powerOff uid pid, a)).1 = 0 ↔
          (counted.run (countedInit 0x100#32) twoOnOneOff).2.LastHold pid) := by
  refine daemon_refines_holds 0x100#32 ⟨by decide, by decide⟩ (by decide) twoOnOneOff ?_
    (Holds.always_below_of_length_lt plant _ _ (by decide))
  intro x hx
  simp only [twoOnOneOff, List.mem_cons, List.not_mem_nil, or_false] at hx
  rcases hx with rfl | rfl | rfl <;> exact working_succeeds

end EseManager
