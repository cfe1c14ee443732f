import EseManager.PowerManager

/-!
# The exits of the handlers

One lemma for each handler of the power daemon says all it can do: how it ends, under which conditions, with which state,
reply and calls. `SwitchExit`, `RegisterExit` and `NodeExit` are the exits of the parts of `powerOn` after its gates, and
`PowerOnExit` those of the whole; `PowerOffExit`, `KillallExit` and `binderDied_eq` are the releases.
-/

namespace EseManager

@[simp] theorem Outcome.after_state (calls : List Call) (o : Outcome) : (o.after calls).state = o.state := rfl
@[simp] theorem Outcome.after_ret (calls : List Call) (o : Outcome) : (o.after calls).ret = o.ret := rfl
@[simp] theorem Outcome.after_calls (calls : List Call) (o : Outcome) : (o.after calls).calls = calls ++ o.calls := rfl

/-- A power-off is a power call. -/
theorem Call.isPower_of_isPowerOff {c : Call} (h : c.isPowerOff = true) : c.isPower = true := by
  unfold Call.isPowerOff at h
  split at h
  · rfl
  · cases h

/-- None of the calls switches power. -/
def Quiet (calls : List Call) : Prop := ∀ c ∈ calls, c.isPower = false

theorem Quiet.append {cs ds : List Call} (h : Quiet cs) (h' : Quiet ds) : Quiet (cs ++ ds) := by
  intro c hc
  rcases List.mem_append.1 hc with hc | hc
  · exact h c hc
  · exact h' c hc

theorem Quiet.append_iff {cs ds : List Call} (h : Quiet cs) : Quiet (cs ++ ds) ↔ Quiet ds := by
  constructor
  · intro h' c hc
    exact h' c (List.mem_append_right _ hc)
  · exact h.append

/-- Quiet calls in front add no power call. -/
theorem Quiet.mem_append_iff {cs ds : List Call} (h : Quiet cs) {c : Call} (hc : c.isPower = true) :
    c ∈ cs ++ ds ↔ c ∈ ds := by
  rw [List.mem_append]
  constructor
  · rintro (hm | hm)
    · rw [h c hm] at hc
      cases hc
    · exact hm
  · exact Or.inr

/-! ## The gates of powerOn -/

/-- The descriptor after `openNode`. -/
def nodeAfterOpen (s : State) (a : Answers) : Int := if s.nqNode < 0 then openRet a else s.nqNode

/-- The call of `openNode`, when the node is not open. -/
def openedCalls (s : State) (a : Answers) : List Call := if s.nqNode < 0 then [.openNode (openRet a)] else []

/-- `open_node` in one line. -/
theorem openNode_eq (s : State) (a : Answers) :
    openNode s a = ({ s with nqNode := nodeAfterOpen s a }, openedCalls s a) := by
  unfold openNode nodeAfterOpen openedCalls
  split <;> rfl

/-- Opening the node switches nothing. -/
theorem openedCalls_quiet (s : State) (a : Answers) : Quiet (openedCalls s a) := by
  unfold openedCalls
  split <;> simp [Quiet, Call.isPower]

/-- `isPowerOnAllowed` lets the request through. -/
def BindingAccepted (s : State) (a : Answers) : Prop :=
  s.isFirstCalled = true ∨ a.bindStatus = eseBindingRight ∨ a.bindStatus = eseNoBindingRelation

instance (s : State) (a : Answers) : Decidable (BindingAccepted s a) := by
  unfold BindingAccepted
  infer_instance

/-- The query of the binding status, which the first call leaves out. -/
def askedCalls (s : State) (a : Answers) : List Call :=
  if s.isFirstCalled = true then [] else [.fpGeteSEBindingStatus (geteSEBindingStatus a)]

/-- Nor does asking for the binding status. -/
theorem askedCalls_quiet (s : State) (a : Answers) : Quiet (askedCalls s a) := by
  unfold askedCalls
  split <;> simp [Quiet, Call.isPower]

/-- An accepted status passes the test, and the first call is over. -/
theorem isPowerOnAllowed_of_accepted {s : State} {a : Answers} (h : BindingAccepted s a) :
    isPowerOnAllowed s a = (true, { s with isFirstCalled := false }, askedCalls s a) := by
  unfold isPowerOnAllowed askedCalls
  by_cases hf : s.isFirstCalled = true
  · simp [hf]
  · have hs : s = { s with isFirstCalled := false } := by
      cases s
      simp_all
    rcases h with h | h | h
    · exact absurd h hf
    · simp [hf, geteSEBindingStatus, h, ← hs]
    · simp [hf, geteSEBindingStatus, h, ← hs]

/-- Another status fails it, but for the first call. -/
theorem isPowerOnAllowed_of_not_accepted {s : State} {a : Answers} (h : ¬BindingAccepted s a) :
    s.isFirstCalled = false ∧ isPowerOnAllowed s a = (false, s, askedCalls s a) := by
  simp only [BindingAccepted, not_or, Bool.not_eq_true] at h
  obtain ⟨hf, h0, h1⟩ := h
  exact ⟨hf, by simp [isPowerOnAllowed, askedCalls, hf, geteSEBindingStatus, h0, h1]⟩

/-- All gates of `powerOn` let the request through and the node is open. -/
def Admitted (s : State) (uid : Int) (a : Answers) : Prop :=
  BindingAccepted s a ∧ uidAllowed uid = true ∧ 0 ≤ nodeAfterOpen s a

instance (s : State) (uid : Int) (a : Answers) : Decidable (Admitted s uid a) := by
  unfold Admitted
  infer_instance

/-- The state of the daemon once a request is admitted. -/
def admittedState (s : State) (a : Answers) : State :=
  { s with isFirstCalled := false, nqNode := nodeAfterOpen s a }

/-- The calls of `getState`: it opens the node if need be, and asks for the status word once it is open. -/
def getStateCalls (s : State) (a : Answers) : List Call :=
  openedCalls s a ++
    if nodeAfterOpen s a < 0 then [] else [statusCall { s with nqNode := nodeAfterOpen s a } a]

/-- Reading the state switches nothing. -/
theorem getStateCalls_quiet (s : State) (a : Answers) : Quiet (getStateCalls s a) := by
  refine (openedCalls_quiet s a).append ?_
  split <;> simp [Quiet, statusCall, Call.isPower]

/-- `getState` changes nothing but opening the node. -/
theorem getState_eq (s : State) (a : Answers) :
    (getState s a).state = { s with nqNode := nodeAfterOpen s a } ∧ (getState s a).calls = getStateCalls s a := by
  simp only [getState, openNode_eq, getStateCalls]
  split <;> simp

/-- `getState` switches no power. -/
theorem getState_quiet (s : State) (a : Answers) : Quiet (getState s a).calls := by
  rw [(getState_eq s a).2]
  exact getStateCalls_quiet s a

/-! ## powerOn with the node open -/

/-- How `switchOn` ends. -/
inductive SwitchExit (s : State) (word : BitVec 32) (a : Answers) : Option Int × List Call → Prop where
  | alreadyOn (hon : has word (p61StateSpi ||| p61StateSpiPrio) = true) : SwitchExit s word a (none, [])
  | downloading (hoff : has word (p61StateSpi ||| p61StateSpiPrio) = false) (hd : has word p61StateDwnld = true) :
      SwitchExit s word a (some (-ebusy), [])
  | schemeFailed (hoff : has word (p61StateSpi ||| p61StateSpiPrio) = false) (hd : has word p61StateDwnld = false)
      (hs : a.schemeRet < 0) :
      SwitchExit s word a (some a.schemeRet, [.ioctl s.nqNode (.setPowerScheme 2) a.schemeRet])
  | powerFailed (hoff : has word (p61StateSpi ||| p61StateSpiPrio) = false) (hd : has word p61StateDwnld = false)
      (hs : 0 ≤ a.schemeRet) (hp : a.pwrOnRet < 0) :
      SwitchExit s word a (some a.pwrOnRet,
        [.ioctl s.nqNode (.setPowerScheme 2) a.schemeRet, .ioctl s.nqNode (.setSpmPwr 1) a.pwrOnRet])
  | switched (hoff : has word (p61StateSpi ||| p61StateSpiPrio) = false) (hd : has word p61StateDwnld = false)
      (hs : 0 ≤ a.schemeRet) (hp : 0 ≤ a.pwrOnRet) :
      SwitchExit s word a (none,
        [.ioctl s.nqNode (.setPowerScheme 2) a.schemeRet, .ioctl s.nqNode (.setSpmPwr 1) a.pwrOnRet])

/-- The eSE is switched on in one of these ways. -/
theorem switchOn_exit (s : State) (word : BitVec 32) (a : Answers) : SwitchExit s word a (switchOn s word a) := by
  unfold switchOn
  split
  · exact .alreadyOn ‹_›
  · rename_i hoff
    rw [Bool.not_eq_true] at hoff
    split
    · exact .downloading hoff ‹_›
    · rename_i hd
      rw [Bool.not_eq_true] at hd
      split
      · exact .schemeFailed hoff hd ‹_›
      · rename_i hs
        split
        · exact .powerFailed hoff hd (Int.not_lt.1 hs) ‹_›
        · rename_i hp
          exact .switched hoff hd (Int.not_lt.1 hs) (Int.not_lt.1 hp)

/-- An early return of `switchOn` is negative. -/
theorem SwitchExit.ret_neg {s : State} {word : BitVec 32} {a : Answers} {ret : Int} {switched : List Call}
    (h : SwitchExit s word a (some ret, switched)) : ret < 0 := by
  cases h with
  | downloading => decide
  | schemeFailed _ _ hs => exact hs
  | powerFailed _ _ _ hp => exact hp

/-- `switchOn` never switches power off. -/
theorem SwitchExit.no_powerOff {s : State} {word : BitVec 32} {a : Answers} {o : Option Int × List Call}
    (h : SwitchExit s word a o) : ∀ c ∈ o.2, c.isPowerOff = false := by
  cases h <;> simp [Call.isPowerOff]

/-- The state once a notifier is made. -/
def allocated (s : State) : State := { s with allocs := s.allocs + 1 }

/-- The state once a caller is registered with a callback. -/
def registered (s : State) (pid : Pid) (cb : Binder) : State :=
  { s with
    allocs := s.allocs + 1
    pidsMap := s.pidsMap.addHold pid
      { lServiceCb := some cb, lDeathNotifier := some (newNotifier s pid), clientThreadCount := 0 }
    links := linksWith s pid (cb, newNotifier s pid) }

theorem addHold_isEmpty (m : PidsMap) (pid : Pid) (data : ServiceData) : (m.addHold pid data).isEmpty = false := by
  unfold PidsMap.addHold
  split <;> simp

/-- What was registered under a pid does not matter once it is erased. -/
theorem erase_insert_self (m : PidsMap) (pid : Pid) (d : ServiceData) : (m.insert pid d).erase pid = m.erase pid := by
  refine Std.ExtTreeMap.ext_getElem? fun q => ?_
  rw [Std.ExtTreeMap.getElem?_erase, Std.ExtTreeMap.getElem?_erase, Std.ExtTreeMap.getElem?_insert]
  by_cases hq : pid = q
  · simp [hq]
  · simp [hq]

/-- A registered pid makes the map non-empty. -/
theorem isEmpty_eq_false_of_getElem? {m : PidsMap} {pid : Pid} {d : ServiceData} (h : m[pid]? = some d) :
    m.isEmpty = false := by
  rw [Std.ExtTreeMap.isEmpty_eq_false_iff]
  rintro rfl
  simp at h

/-- How `register` ends. -/
inductive RegisterExit (s : State) (pid : Pid) (notifier : Option Binder) (a : Answers) : Outcome → Prop where
  | shared (hn : notifier = none) (he : s.pidsMap.isEmpty = false) :
      RegisterExit s pid notifier a ⟨allocated s, -1, []⟩
  | undoFailed (hn : notifier = none) (he : s.pidsMap.isEmpty = true) (hr : a.pwrOffRet < 0) :
      RegisterExit s pid notifier a ⟨allocated s, a.pwrOffRet, [.ioctl s.nqNode (.setSpmPwr 0) a.pwrOffRet]⟩
  | undone (hn : notifier = none) (he : s.pidsMap.isEmpty = true) (hr : 0 ≤ a.pwrOffRet) (node : Int)
      (hnode : node = if a.closeRet ≠ 0 then s.nqNode else -1) :
      RegisterExit s pid notifier a ⟨{ allocated s with nqNode := node }, -1,
        [.ioctl s.nqNode (.setSpmPwr 0) a.pwrOffRet, .closeNode s.nqNode a.closeRet]⟩
  | linkFailed (cb : Binder) (hn : notifier = some cb) (hl : a.linkRet ≠ noError) :
      RegisterExit s pid notifier a ⟨allocated s, -1, [.linkToDeath cb (newNotifier s pid) a.linkRet]⟩
  | registered (cb : Binder) (hn : notifier = some cb) (hl : a.linkRet = noError) :
      RegisterExit s pid notifier a ⟨registered s pid cb, 1, [.linkToDeath cb (newNotifier s pid) a.linkRet]⟩

/-- What `closeNode` leaves: the descriptor only if the close failed. -/
theorem closeNode_eq (s : State) (a : Answers) :
    closeNode s a = ({ s with nqNode := if a.closeRet ≠ 0 then s.nqNode else -1 }, [.closeNode s.nqNode a.closeRet]) := by
  unfold closeNode
  split <;> rfl

/-- A caller is registered in one of these ways. -/
theorem register_exit (s : State) (pid : Pid) (notifier : Option Binder) (a : Answers) :
    RegisterExit s pid notifier a (register s pid notifier a) := by
  cases notifier with
  | none =>
    simp only [register, undoPowerOn, closeNode_eq]
    by_cases he : s.pidsMap.isEmpty = true
    · rw [if_pos he]
      by_cases hr : a.pwrOffRet < 0
      · rw [if_pos hr]
        exact .undoFailed rfl he hr
      · rw [if_neg hr]
        exact .undone rfl he (Int.not_lt.1 hr) _ rfl
    · rw [if_neg he]
      exact .shared rfl (Bool.eq_false_iff.2 he)
  | some cb =>
    simp only [register]
    by_cases hl : a.linkRet ≠ noError
    · rw [if_pos hl]
      exact .linkFailed cb rfl hl
    · rw [if_neg hl]
      exact .registered cb rfl (not_not.1 hl)

/-- How `powerOnNode` ends: the status query fails, the switching on fails, or the rest is `register`. -/
inductive NodeExit (s : State) (pid : Pid) (notifier : Option Binder) (a : Answers) : Outcome → Prop where
  | statusFailed (hst : a.statusRet < 0) : NodeExit s pid notifier a ⟨s, a.statusRet, [statusCall s a]⟩
  | switchFailed (hst : 0 ≤ a.statusRet) (ret : Int) (switched : List Call)
      (hs : SwitchExit s a.word a (some ret, switched)) :
      NodeExit s pid notifier a ⟨s, ret, statusCall s a :: switched⟩
  | on (hst : 0 ≤ a.statusRet) (switched : List Call) (hs : SwitchExit s a.word a (none, switched)) (o : Outcome)
      (hr : RegisterExit s pid notifier a o) : NodeExit s pid notifier a (o.after (statusCall s a :: switched))

/-- `powerOn` goes on from an open node in one of these ways. -/
theorem powerOnNode_exit (s : State) (pid : Pid) (notifier : Option Binder) (a : Answers) :
    NodeExit s pid notifier a (powerOnNode s pid notifier a) := by
  unfold powerOnNode
  by_cases hst : a.statusRet < 0
  · rw [if_pos hst]
    exact .statusFailed hst
  · have hw : eseCurrentState a = a.word := by simp [eseCurrentState, hst]
    have he := switchOn_exit s a.word a
    rw [if_neg hst, hw]
    split
    · rename_i ret switched heq
      rw [heq] at he
      exact .switchFailed (Int.not_lt.1 hst) ret switched he
    · rename_i switched heq
      rw [heq] at he
      exact .on (Int.not_lt.1 hst) switched he _ (register_exit s pid notifier a)

/-! ## powerOn -/

/-- How `powerOn` ends: at one of its gates, with the node that does not open, or as `powerOnNode`. -/
inductive PowerOnExit (s : State) (uid : Int) (pid : Pid) (notifier : Option Binder) (a : Answers) : Outcome → Prop where
  | bindingRefused (hb : ¬BindingAccepted s a) :
      PowerOnExit s uid pid notifier a
        ⟨{ s with nqNode := nodeAfterOpen s a }, permissionDenied, askedCalls s a ++ getStateCalls s a⟩
  | uidRefused (hb : BindingAccepted s a) (hu : uidAllowed uid = false) :
      PowerOnExit s uid pid notifier a ⟨{ s with isFirstCalled := false }, permissionDenied, askedCalls s a⟩
  | notOpened (hb : BindingAccepted s a) (hu : uidAllowed uid = true) (hn : nodeAfterOpen s a < 0) :
      PowerOnExit s uid pid notifier a ⟨admittedState s a, nodeAfterOpen s a, askedCalls s a ++ openedCalls s a⟩
  | admitted (h : Admitted s uid a) (o : Outcome) (ho : NodeExit (admittedState s a) pid notifier a o) :
      PowerOnExit s uid pid notifier a (o.after (askedCalls s a ++ openedCalls s a))

/-- `powerOn` ends in one of these ways. -/
theorem powerOn_exit (s : State) (uid : Int) (pid : Pid) (notifier : Option Binder) (a : Answers) :
    PowerOnExit s uid pid notifier a (powerOn s uid pid notifier a) := by
  by_cases hb : BindingAccepted s a
  · have hopen : openNode { s with isFirstCalled := false } a = (admittedState s a, openedCalls s a) := openNode_eq _ a
    by_cases hu : uidAllowed uid = true
    · by_cases hn : nodeAfterOpen s a < 0
      · have hneg : (admittedState s a).nqNode < 0 := hn
        simp only [powerOn, isPowerOnAllowed_of_accepted hb, hu, Bool.true_eq_false, if_false, hopen, if_pos hneg]
        exact .notOpened hb hu hn
      · have hpos : ¬(admittedState s a).nqNode < 0 := hn
        simp only [powerOn, isPowerOnAllowed_of_accepted hb, hu, Bool.true_eq_false, if_false, hopen, if_neg hpos]
        exact .admitted ⟨hb, hu, Int.not_lt.1 hn⟩ _ (powerOnNode_exit _ pid notifier a)
    · rw [Bool.not_eq_true] at hu
      simp only [powerOn, isPowerOnAllowed_of_accepted hb, hu, if_true]
      exact .uidRefused hb hu
  · obtain ⟨hf, heq⟩ := isPowerOnAllowed_of_not_accepted hb
    obtain ⟨hst, hcalls⟩ := getState_eq s a
    simp only [powerOn, heq, hst, hcalls]
    exact .bindingRefused hb

/-- A request that is not admitted: the reply is negative, no power is switched, and what may change is the node, by opening
it, and the first-call flag. -/
theorem powerOn_refused {s : State} {uid : Int} {a : Answers} (h : ¬Admitted s uid a) (pid : Pid)
    (notifier : Option Binder) :
    (powerOn s uid pid notifier a).ret < 0 ∧ Quiet (powerOn s uid pid notifier a).calls ∧
      ((powerOn s uid pid notifier a).state = { s with isFirstCalled := false } ∨
        (powerOn s uid pid notifier a).state = { s with isFirstCalled := false, nqNode := nodeAfterOpen s a }) := by
  have hexit := powerOn_exit s uid pid notifier a
  have hasked := askedCalls_quiet s a
  generalize powerOn s uid pid notifier a = o at hexit
  cases hexit with
  | bindingRefused hb =>
    obtain ⟨hf, -⟩ := isPowerOnAllowed_of_not_accepted hb
    exact ⟨permissionDenied_neg, hasked.append (getStateCalls_quiet s a), Or.inr (by rw [← hf])⟩
  | uidRefused => exact ⟨permissionDenied_neg, hasked, Or.inl rfl⟩
  | notOpened _ _ hn => exact ⟨hn, hasked.append (openedCalls_quiet s a), Or.inr rfl⟩
  | admitted hadm => exact absurd hadm h

/-- A request that is admitted goes on from `powerOnNode`, in the state with the node open. -/
theorem powerOn_admitted {s : State} {uid : Int} {a : Answers} (h : Admitted s uid a) (pid : Pid)
    (notifier : Option Binder) :
    powerOn s uid pid notifier a =
      (powerOnNode (admittedState s a) pid notifier a).after (askedCalls s a ++ openedCalls s a) := by
  obtain ⟨hb, hu, hn⟩ := h
  have hopen : openNode { s with isFirstCalled := false } a = (admittedState s a, openedCalls s a) := openNode_eq _ a
  have hpos : ¬(admittedState s a).nqNode < 0 := Int.not_lt.2 hn
  simp only [powerOn, isPowerOnAllowed_of_accepted hb, hu, Bool.true_eq_false, if_false, hopen, if_neg hpos]

/-- The calls of `powerOn` before the status query switch no power. -/
theorem admittedCalls_quiet (s : State) (a : Answers) : Quiet (askedCalls s a ++ openedCalls s a) :=
  (askedCalls_quiet s a).append (openedCalls_quiet s a)

/-! ## Releases -/

/-- After a status query that fails, the handlers read the download bit in the initial value. -/
theorem has_eseCurrentState_dwnld (a : Answers) :
    has (eseCurrentState a) p61StateDwnld = true ↔ a.statusRet < 0 ∨ has a.word p61StateDwnld = true := by
  unfold eseCurrentState
  by_cases hst : a.statusRet < 0
  · rw [if_pos hst]
    exact iff_of_true (by decide) (Or.inl hst)
  · rw [if_neg hst]
    exact ⟨Or.inr, fun h => h.resolve_left hst⟩

/-- How `switchOff` ends. -/
inductive SwitchOffExit (s : State) (a : Answers) (done : Int) : Outcome → Prop where
  | busy (hd : has (eseCurrentState a) p61StateDwnld = true) : SwitchOffExit s a done ⟨s, -ebusy, [statusCall s a]⟩
  | offFailed (hd : has (eseCurrentState a) p61StateDwnld = false) (hr : a.pwrOffRet < 0) :
      SwitchOffExit s a done ⟨s, a.pwrOffRet, [statusCall s a, .ioctl s.nqNode (.setSpmPwr 0) a.pwrOffRet]⟩
  | off (hd : has (eseCurrentState a) p61StateDwnld = false) (hr : 0 ≤ a.pwrOffRet) (node : Int)
      (hnode : node = if a.closeRet ≠ 0 then s.nqNode else -1) :
      SwitchOffExit s a done ⟨{ s with nqNode := node }, done,
        [statusCall s a, .ioctl s.nqNode (.setSpmPwr 0) a.pwrOffRet, .closeNode s.nqNode a.closeRet]⟩

/-- The eSE is switched off in one of these ways. -/
theorem switchOff_exit (s : State) (a : Answers) (done : Int) : SwitchOffExit s a done (switchOff s a done) := by
  simp only [switchOff, closeNode_eq]
  by_cases hd : has (eseCurrentState a) p61StateDwnld = true
  · rw [if_pos hd]
    exact .busy hd
  · rw [if_neg hd]
    rw [Bool.not_eq_true] at hd
    by_cases hr : a.pwrOffRet < 0
    · rw [if_pos hr]
      exact .offFailed hd hr
    · rw [if_neg hr]
      exact .off hd (Int.not_lt.1 hr) _ rfl

theorem unlink_state (s : State) (d : ServiceData) : (unlink s d).1 = { s with links := linksWithout s d } := by
  unfold unlink linksWithout
  split <;> simp_all

/-- All of the calls unlink death notifiers. -/
def Unlinks (calls : List Call) : Prop := ∀ c ∈ calls, ∃ cb n, c = .unlinkToDeath cb n

/-- Unlinking switches nothing. -/
theorem Unlinks.quiet {calls : List Call} (h : Unlinks calls) : Quiet calls := by
  intro c hc
  obtain ⟨cb, n, rfl⟩ := h c hc
  rfl

theorem unlink_unlinks (s : State) (d : ServiceData) : Unlinks (unlink s d).2 := by
  unfold unlink
  split <;> simp [Unlinks]

theorem unlink_quiet (s : State) (d : ServiceData) : Quiet (unlink s d).2 := (unlink_unlinks s d).quiet

/-- The state once a hold of a pid is counted down and others of it remain. -/
def countedDown (s : State) (pid : Pid) (d : ServiceData) : State :=
  { s with
    links := linksWithout s d
    pidsMap := s.pidsMap.insert pid { d with clientThreadCount := d.clientThreadCount - 1 } }

/-- The state once the entry of a pid is erased. -/
def released (s : State) (pid : Pid) (d : ServiceData) : State :=
  { s with links := linksWithout s d, pidsMap := s.pidsMap.erase pid }

/-- How `powerOff` ends. -/
inductive PowerOffExit (s : State) (uid : Int) (pid : Pid) (a : Answers) : Outcome → Prop where
  | refused (hu : uidAllowed uid = false) : PowerOffExit s uid pid a ⟨s, permissionDenied, []⟩
  | unregistered (hu : uidAllowed uid = true) (hm : s.pidsMap[pid]? = none) : PowerOffExit s uid pid a ⟨s, -1, []⟩
  | kept (hu : uidAllowed uid = true) (d : ServiceData) (hm : s.pidsMap[pid]? = some d)
      (hc : d.clientThreadCount - 1 > 0) : PowerOffExit s uid pid a ⟨countedDown s pid d, 1, (unlink s d).2⟩
  | shared (hu : uidAllowed uid = true) (d : ServiceData) (hm : s.pidsMap[pid]? = some d)
      (hc : ¬d.clientThreadCount - 1 > 0) (he : (s.pidsMap.erase pid).isEmpty = false) :
      PowerOffExit s uid pid a ⟨released s pid d, 1, (unlink s d).2⟩
  | closed (hu : uidAllowed uid = true) (d : ServiceData) (hm : s.pidsMap[pid]? = some d)
      (hc : ¬d.clientThreadCount - 1 > 0) (he : (s.pidsMap.erase pid).isEmpty = true) (hn : s.nqNode < 0) :
      PowerOffExit s uid pid a ⟨released s pid d, 0, (unlink s d).2⟩
  | last (hu : uidAllowed uid = true) (d : ServiceData) (hm : s.pidsMap[pid]? = some d)
      (hc : ¬d.clientThreadCount - 1 > 0) (he : (s.pidsMap.erase pid).isEmpty = true) (hn : 0 ≤ s.nqNode)
      (o : Outcome) (ho : SwitchOffExit (released s pid d) a 0 o) :
      PowerOffExit s uid pid a (o.after (unlink s d).2)

/-- `powerOff` ends in one of these ways. -/
theorem powerOff_exit (s : State) (uid : Int) (pid : Pid) (a : Answers) :
    PowerOffExit s uid pid a (powerOff s uid pid a) := by
  unfold powerOff
  by_cases hu : uidAllowed uid = true
  · rw [if_neg (by simp [hu])]
    cases hm : s.pidsMap[pid]? with
    | none => exact .unregistered hu hm
    | some d =>
      simp only [unlink_state]
      by_cases hc : d.clientThreadCount - 1 > 0
      · rw [if_pos hc]
        exact .kept hu d hm hc
      · rw [if_neg hc]
        by_cases he : (s.pidsMap.erase pid).isEmpty = true
        · rw [if_neg (by simp [he])]
          by_cases hn : s.nqNode < 0
          · rw [if_pos hn]
            exact .closed hu d hm hc he hn
          · rw [if_neg hn]
            exact .last hu d hm hc he (Int.not_lt.1 hn) _ (switchOff_exit _ a 0)
        · rw [Bool.not_eq_true] at he
          rw [if_pos he]
          exact .shared hu d hm hc he
  · rw [Bool.not_eq_true] at hu
    rw [if_pos hu]
    exact .refused hu

/-- A death notice erases the registration of its pid; when that was the last one and the node is open, it switches off. -/
theorem binderDied_eq (s : State) (mPid : Pid) (a : Answers) :
    binderDied s mPid a = ⟨s.unregister mPid, noError,
      if (s.pidsMap.erase mPid).isEmpty = true ∧ 0 ≤ s.nqNode then
        [.ioctl s.nqNode (.setSpmPwr 0) a.pwrOffRet] else []⟩ := by
  simp only [binderDied, State.unregister_pidsMap, State.unregister_nqNode]
  by_cases he : (s.pidsMap.erase mPid).isEmpty = true
  · by_cases hn : s.nqNode < 0
    · simp [he, hn]
    · simp [he, hn, Int.not_lt.1 hn]
  · rw [Bool.not_eq_true] at he
    simp [he]

/-- No link is gained. -/
theorem linksWithout_sublist (s : State) (d : ServiceData) : (linksWithout s d).Sublist s.links := by
  unfold linksWithout
  split
  · exact List.erase_sublist
  · exact List.Sublist.refl _

theorem linksWith_of_some {s : State} {pid : Pid} {d : ServiceData} (h : s.pidsMap[pid]? = some d) (l : Link) :
    linksWith s pid l = s.links := by
  simp [linksWith, h]

theorem linksWith_of_none {s : State} {pid : Pid} (h : s.pidsMap[pid]? = none) (l : Link) :
    linksWith s pid l = s.links ++ [l] := by
  simp [linksWith, h]

/-- The links once a pid is registered are those before, and for a new pid the new one. -/
theorem mem_linksWith_iff {s : State} {pid : Pid} {new l : Link} :
    l ∈ linksWith s pid new ↔ l ∈ s.links ∨ s.pidsMap[pid]? = none ∧ l = new := by
  unfold linksWith
  split <;> simp_all

/-- Registering a pid takes no link away. -/
theorem mem_linksWith {s : State} {l : Link} (h : l ∈ s.links) (pid : Pid) (new : Link) : l ∈ linksWith s pid new :=
  mem_linksWith_iff.2 (Or.inl h)

theorem unregister_links_of_some {s : State} {pid : Pid} {d : ServiceData} (h : s.pidsMap[pid]? = some d) :
    (s.unregister pid).links = linksWithout s d := by
  simp [State.unregister, h]

theorem unregister_links_of_none {s : State} {pid : Pid} (h : s.pidsMap[pid]? = none) :
    (s.unregister pid).links = s.links := by
  simp [State.unregister, h]

/-- Erasing a registration only takes links away. -/
theorem unregister_sublist (s : State) (pid : Pid) : (s.unregister pid).links.Sublist s.links := by
  cases h : s.pidsMap[pid]? with
  | none => rw [unregister_links_of_none h]
  | some d =>
    rw [unregister_links_of_some h]
    exact linksWithout_sublist s d

/-- Unlinking every entry changes nothing but the links. -/
theorem unlinkAll_spec (s : State) :
    (∃ links, (unlinkAll s).1 = { s with links := links }) ∧ Unlinks (unlinkAll s).2 := by
  have key : ∀ (es : List (Pid × ServiceData)) (acc : State × List Call),
      (∃ links, acc.1 = { s with links := links }) → Unlinks acc.2 →
      (∃ links, (es.foldl (fun (acc : State × List Call) e =>
        ((unlink acc.1 e.2).1, acc.2 ++ (unlink acc.1 e.2).2)) acc).1 = { s with links := links }) ∧
        Unlinks (es.foldl (fun (acc : State × List Call) e =>
          ((unlink acc.1 e.2).1, acc.2 ++ (unlink acc.1 e.2).2)) acc).2 := by
    intro es
    induction es with
    | nil => exact fun acc h hq => ⟨h, hq⟩
    | cons e es ih =>
      rintro acc ⟨links, h⟩ hq
      rw [List.foldl_cons]
      refine ih _ ⟨linksWithout acc.1 e.2, ?_⟩ ?_
      · rw [unlink_state, h]
      · intro c hc
        rcases List.mem_append.1 hc with hc | hc
        · exact hq c hc
        · exact unlink_unlinks _ _ c hc
  exact key _ (s, []) ⟨s.links, rfl⟩ (by simp [Unlinks])

/-- The state of `killall` once nobody is registered and the node is open. -/
def clearedState (s : State) (a : Answers) : State :=
  { s with pidsMap := ∅, links := [], nqNode := nodeAfterOpen s a }

/-- How `killall` ends. By an authorised caller it leaves nobody registered. -/
inductive KillallExit (s : State) (uid : Int) (a : Answers) : Outcome → Prop where
  | refused (hu : uidAllowed uid = false) : KillallExit s uid a ⟨s, permissionDenied, []⟩
  | notOpened (hu : uidAllowed uid = true) (unlinked : List Call) (hc : Unlinks unlinked) (hn : nodeAfterOpen s a < 0) :
      KillallExit s uid a ⟨clearedState s a, nodeAfterOpen s a, unlinked ++ openedCalls s a⟩
  | opened (hu : uidAllowed uid = true) (unlinked : List Call) (hc : Unlinks unlinked) (hn : 0 ≤ nodeAfterOpen s a) (o : Outcome)
      (ho : SwitchOffExit (clearedState s a) a a.pwrOffRet o) :
      KillallExit s uid a (o.after (unlinked ++ openedCalls s a))

/-- `killall` ends in one of these ways. -/
theorem killall_exit (s : State) (uid : Int) (a : Answers) : KillallExit s uid a (killall s uid a) := by
  by_cases hu : uidAllowed uid = true
  · obtain ⟨⟨links, hl⟩, hc⟩ := unlinkAll_spec s
    have hopen : openNode { s with pidsMap := ∅, links := [] } a = (clearedState s a, openedCalls s a) := openNode_eq _ a
    by_cases hn : nodeAfterOpen s a < 0
    · have hneg : (clearedState s a).nqNode < 0 := hn
      simp only [killall, hu, Bool.true_eq_false, if_false, hl, hopen, if_pos hneg]
      exact .notOpened hu _ hc hn
    · have hpos : ¬(clearedState s a).nqNode < 0 := hn
      simp only [killall, hu, Bool.true_eq_false, if_false, hl, hopen, if_neg hpos]
      exact .opened hu _ hc (Int.not_lt.1 hn) _ (switchOff_exit _ a a.pwrOffRet)
  · rw [Bool.not_eq_true] at hu
    simp only [killall, hu, if_true]
    exact .refused hu

end EseManager
