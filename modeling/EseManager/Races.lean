import EseManager.Device
import EseManager.Lib.Shuffle

/-!
# A death notice next to a power request

`BneSEPowerManager::onTransact` holds a mutex while it handles a request. `binderDied` does not take it, so that a death notice
runs next to a `powerOn`, and the two interleave. Here both are cut into the steps that read or write what they share: the map, the
node, and the status word of the device. `race` runs such steps in any order; each handler's own steps in order give the handler
(`run_powerOnSteps`, `run_binderDiedSteps`).

A step is not cut up further here: the insertion is one step with its test for the pid, and so is the test whether the map is empty
with the log lines that print it (what an iterator meets there is in `release`).
-/

namespace EseManager

/-- The steps of `powerOn` past its gates, and those of `binderDied`. -/
inductive Step where
  | readStatus
  | switchOn
  | link
  | insert
  | erase
  | testEmpty
  | switchOff
  deriving DecidableEq, Repr

/-- The steps of `powerOn`, in order. -/
def powerOnSteps : List Step := [.readStatus, .switchOn, .link, .insert]

/-- The steps of `binderDied`, in order. -/
def binderDiedSteps : List Step := [.erase, .testEmpty, .switchOff]

/-- The two handlers: the death of `mPid`, and the `powerOn` of `pid` with the callback `cb`. -/
structure Contenders where
  mPid : Pid
  pid : Pid
  cb : Binder
  answers : Answers

/-- What the handlers share, the locals of `powerOn` (`ese_current_state`, the notifier, the value it has returned) and the local
of `binderDied` (what `isPidsMapEmpty` has returned). -/
structure Race where
  daemon : State
  word : BitVec 32
  eseCurrentState : BitVec 32
  notifier : Option ClientDiedNotifier
  ret : Option Int
  empty : Bool

/-- Both handlers at their first step. -/
def Race.start (s : State) (word : BitVec 32) : Race :=
  { daemon := s, word := word, eseCurrentState := -1#32, notifier := none, ret := none, empty := false }

/-- Open the node if it is not open, and read the status word. -/
def Race.readStatus (c : Contenders) (r : Race) : Race :=
  let s := (openNode r.daemon c.answers).1
  if s.nqNode < 0 then
    { r with daemon := s, ret := some s.nqNode }
  else if c.answers.statusRet < 0 then
    { r with daemon := s, ret := some c.answers.statusRet }
  else
    { r with daemon := s, eseCurrentState := r.word }

/-- Switch the eSE on if the word that was read shows it off. -/
def Race.switchOn (c : Contenders) (r : Race) : Race :=
  match r.ret with
  | some _ => r
  | none =>
    let (ret, calls) := EseManager.switchOn r.daemon r.eseCurrentState c.answers
    { r with ret := ret, word := wordAfterAll r.word calls }

/-- Make a notifier and link it on the callback. -/
def Race.link (c : Contenders) (r : Race) : Race :=
  match r.ret with
  | some _ => r
  | none =>
    let n := newNotifier r.daemon c.pid
    if c.answers.linkRet ≠ noError then
      { r with daemon := allocated r.daemon, ret := some (-1) }
    else
      { r with daemon := allocated r.daemon, notifier := some n }

/-- Enter the pid in the map with the notifier, or count it up, and return 1. -/
def Race.insert (c : Contenders) (r : Race) : Race :=
  match r.ret with
  | some _ => r
  | none =>
    let data : ServiceData := { lServiceCb := some c.cb, lDeathNotifier := r.notifier, clientThreadCount := 0 }
    let links := (data.link?.map (linksWith r.daemon c.pid)).getD r.daemon.links
    { r with daemon := { r.daemon with pidsMap := r.daemon.pidsMap.addHold c.pid data, links := links }, ret := some 1 }

/-- Erase the pid of the dead process. -/
def Race.erase (c : Contenders) (r : Race) : Race :=
  { r with daemon := r.daemon.unregister c.mPid }

/-- Ask whether the map is empty. -/
def Race.testEmpty (r : Race) : Race := { r with empty := r.daemon.pidsMap.isEmpty }

/-- Switch the eSE off if the map was empty and the node is open. -/
def Race.switchOff (c : Contenders) (r : Race) : Race :=
  if r.empty = false then r
  else if r.daemon.nqNode < 0 then r
  else { r with word := wordAfter r.word (.ioctl r.daemon.nqNode (.setSpmPwr 0) c.answers.pwrOffRet) }

/-- One step of either handler. -/
def Race.next (c : Contenders) (r : Race) : Step → Race
  | .readStatus => r.readStatus c
  | .switchOn => r.switchOn c
  | .link => r.link c
  | .insert => r.insert c
  | .erase => r.erase c
  | .testEmpty => r.testEmpty
  | .switchOff => r.switchOff c

/-- The two handlers, step by step. -/
def race (c : Contenders) : Machine Race Step Unit where
  next r step := r.next c step
  out _ _ := ()

/-! ## The steps make up the handlers -/

/-- Without a step of `binderDied` in between, the steps of `powerOn` are the handler, once its gates have let it through. -/
theorem run_powerOnSteps (c : Contenders) {r : Race} {s : State} {uid : Int} (hret : r.ret = none)
    (hd : r.daemon = { s with isFirstCalled := false }) (h : Admitted s uid { c.answers with word := r.word }) :
    let r' := (race c).run r powerOnSteps
    let o := powerOn s uid c.pid (some c.cb) { c.answers with word := r.word }
    r'.daemon = o.state ∧ r'.word = wordAfterAll r.word o.calls ∧ r'.ret = some o.ret := by
  have heq := powerOn_admitted h c.pid (some c.cb)
  have hq := admittedCalls_quiet s { c.answers with word := r.word }
  have hopen : (openNode { s with isFirstCalled := false } c.answers).1 = admittedState s c.answers := by
    rw [openNode_eq]
    rfl
  have hnode : ¬(admittedState s c.answers).nqNode < 0 := Int.not_lt.2 h.2.2
  have hstate : admittedState s { c.answers with word := r.word } = admittedState s c.answers := rfl
  simp only [heq, Outcome.after_state, Outcome.after_calls, Outcome.after_ret, wordAfterAll_quiet_append hq, hstate]
  simp only [race, powerOnSteps, Machine.run_cons, Machine.run_nil, Race.next, Race.readStatus, hd, hopen, if_neg hnode]
  by_cases hst : c.answers.statusRet < 0
  · simp [hst, powerOnNode, Race.switchOn, Race.link, Race.insert, wordAfterAll, wordAfter, statusCall]
  · have hcur : eseCurrentState { c.answers with word := r.word } = r.word := by simp [eseCurrentState, hst]
    have hsw : ∀ st, EseManager.switchOn st r.word { c.answers with word := r.word } =
        EseManager.switchOn st r.word c.answers := fun _ => rfl
    simp only [if_neg hst, powerOnNode, hcur, hsw, Race.switchOn, hret]
    rcases EseManager.switchOn (admittedState s c.answers) r.word c.answers with ⟨ret, switched⟩
    cases ret with
    | some ret => exact ⟨rfl, rfl, rfl⟩
    | none =>
      have hw : ∀ link, wordAfterAll r.word (statusCall (admittedState s c.answers) c.answers :: switched ++
          [.linkToDeath c.cb link c.answers.linkRet]) = wordAfterAll r.word switched := by
        intro link
        simp [wordAfterAll, List.foldl_append, wordAfter, statusCall]
      by_cases hl : c.answers.linkRet ≠ noError
      · simp only [Race.link, Race.insert, if_pos hl, register, Outcome.after_state, Outcome.after_ret,
          Outcome.after_calls, allocated]
        exact ⟨trivial, (hw _).symm, trivial⟩
      · simp only [Race.link, Race.insert, if_neg hl, register, Outcome.after_state, Outcome.after_ret,
          Outcome.after_calls, allocated, newNotifier]
        exact ⟨rfl, (hw _).symm, trivial⟩

/-- Without a step of `powerOn` in between, the steps of `binderDied` are the handler, and leave the locals of `powerOn`. -/
theorem run_binderDiedSteps (c : Contenders) (r : Race) :
    let r' := (race c).run r binderDiedSteps
    let o := binderDied r.daemon c.mPid c.answers
    r'.daemon = o.state ∧ r'.word = wordAfterAll r.word o.calls ∧ r'.ret = r.ret := by
  simp only [binderDied_eq, race, binderDiedSteps, Machine.run_cons, Machine.run_nil, Race.next, Race.erase, Race.testEmpty,
    Race.switchOff, State.unregister_pidsMap, State.unregister_nqNode]
  by_cases he : (r.daemon.pidsMap.erase c.mPid).isEmpty = true
  · by_cases hn : r.daemon.nqNode < 0
    · simp [he, hn, Int.not_le.2 hn, wordAfterAll]
    · simp [he, hn, Int.not_lt.1 hn, wordAfterAll]
  · rw [Bool.not_eq_true] at he
    simp [he, wordAfterAll]

end EseManager
