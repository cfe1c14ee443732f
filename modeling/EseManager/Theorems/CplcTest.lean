import EseManager.GetCplcTest
import EseManager.Theorems.ClientSessions
import EseManager.Theorems.RefCount
import Mathlib.Data.Finset.Card
import Mathlib.Data.List.Count

/-!
# The stress test holds what its threads hold

Each thread of `getCplcTest` takes one hold at a time and gives it back, but all of them count on one entry, and the death notices,
failures and other clients of the daemon come in between. `TestInv` says that the count of the process is at all times the number
of its threads between `powerOn` and `powerOff`, so that nothing is left of it in the end, and that each of these threads finds the
eSE on.
-/

namespace EseManager

namespace CplcTest

variable {c : CplcTest} {t : TestRun}

/-- The invariant of a run: the one of `sessions`, the one of the device, and one hold for every running thread. -/
structure TestInv (c : CplcTest) (t : TestRun) (h : Holds Pid) : Prop where
  sessions : SessionsInv (fun pid => pid = c.pid) (t.sessions, h)
  plant : PlantInv t.sessions.daemon t.word
  created : t.created ≤ c.threadCount
  numbered : ∀ i, c.Running t i → i < c.threadCount
  authorised : ∀ i, c.Running t i → uidAllowed c.uid = true
  exact : h c.pid = (c.running t).card

theorem mem_running_iff (hi : ∀ i, c.Running t i → i < c.threadCount) (i : Nat) : i ∈ c.running t ↔ c.Running t i := by
  unfold running
  rw [Finset.mem_filter, Finset.mem_range]
  exact ⟨And.right, fun h => ⟨hi i h, h⟩⟩

/-! ## The actions of the process -/

theorem alive_iff {i : Nat} : alive t i = true ↔ t.exited = false ∧ i < t.created := by
  unfold alive
  simp

/-- How the next call of a thread comes about. -/
theorem nextCall_cases {i : Nat} {cb : Binder} {a : Answers} {act : Action Nat} (h : c.nextCall t i cb a = some act) :
    i < t.created ∧
      ((t.sessions.phase c.pid i = .idle ∧ act = .powerOn c.uid c.pid i (some cb) a) ∨
        (t.sessions.phase c.pid i = .powered ∧ act = .getEseCplc c.pid i) ∨
        (t.sessions.phase c.pid i = .read ∧ act = .powerOff c.uid c.pid i a)) := by
  unfold nextCall at h
  split at h
  · cases h
  · rename_i halive
    refine ⟨(alive_iff.1 (by simpa using halive)).2, ?_⟩
    split at h
    · rename_i hp
      split at h
      · cases h
        exact Or.inl ⟨hp, rfl⟩
      · cases h
    · rename_i hp
      cases h
      exact Or.inr (Or.inl ⟨hp, rfl⟩)
    · rename_i hp
      cases h
      exact Or.inr (Or.inr ⟨hp, rfl⟩)

/-- The threads of the process make their calls in order, and the others keep out of its way. -/
theorem action_inOrder {step : TestStep} {act : Action Nat} (h : c.action t step = some act) (hs : c.Spares step) :
    InOrder (fun pid => pid = c.pid) t.sessions act := by
  cases step with
  | call i cb a =>
    obtain ⟨-, ⟨hp, rfl⟩ | ⟨hp, rfl⟩ | ⟨hp, rfl⟩⟩ := nextCall_cases h
    · exact ⟨rfl, hp⟩
    · exact ⟨rfl, hp⟩
    · exact ⟨rfl, hp⟩
  | create => cases h
  | test => cases h
  | sigint => cases h
  | other r a =>
    cases h
    cases r with
    | powerOn => exact hs
    | powerOff => exact hs
    | getState => trivial
    | killall => exact hs
    | geteSEBindingStatus => trivial
    | binderDied => exact hs

/-- The daemon reads the word of the device in an action, and its calls succeed if they are to. -/
theorem action_succeeds {step : TestStep} {act : Action Nat} (h : c.action t step = some act) (hs : step.Succeeds)
    {x : Request × Answers} (hx : act.request = some x) : x.2.Succeeds ∧ x.2.word = t.word := by
  cases step with
  | call i cb a =>
    have ha : Answers.Succeeds { a with word := t.word } := Answers.Succeeds.with_word hs t.word
    obtain ⟨-, ⟨-, rfl⟩ | ⟨-, rfl⟩ | ⟨-, rfl⟩⟩ := nextCall_cases h
    · cases hx
      exact ⟨ha, rfl⟩
    · cases hx
    · cases hx
      exact ⟨ha, rfl⟩
  | create => cases h
  | test => cases h
  | sigint => cases h
  | other r a =>
    cases h
    cases hx
    exact ⟨Answers.Succeeds.with_word hs t.word, rfl⟩

/-- A call of the process is by the uid of the process. -/
theorem action_uid {step : TestStep} {act : Action Nat} (h : c.action t step = some act) :
    (∀ uid pid i notifier a, act = .powerOn uid pid i notifier a → uid = c.uid ∧ i < t.created) ∧
      ∀ uid pid i a, act = .powerOff uid pid i a → uid = c.uid := by
  cases step with
  | call i cb a =>
    obtain ⟨hlt, ⟨-, rfl⟩ | ⟨-, rfl⟩ | ⟨-, rfl⟩⟩ := nextCall_cases h
    · refine ⟨?_, ?_⟩
      · intro uid pid j notifier b heq
        cases heq
        exact ⟨rfl, hlt⟩
      · intro uid pid j b heq
        cases heq
    · refine ⟨?_, ?_⟩
      · intro uid pid j notifier b heq
        cases heq
      · intro uid pid j b heq
        cases heq
    · refine ⟨?_, ?_⟩
      · intro uid pid j notifier b heq
        cases heq
      · intro uid pid j b heq
        cases heq
        rfl
  | create => cases h
  | test => cases h
  | sigint => cases h
  | other r a =>
    cases h
    refine ⟨?_, ?_⟩
    · intro uid pid j notifier b heq
      cases heq
    · intro uid pid j b heq
      cases heq

/-! ## The device -/

/-- An action whose calls succeed keeps the device accounted for. -/
theorem plantInv_action {s : Sessions Nat} {word : BitVec 32} (h : PlantInv s.daemon word) {act : Action Nat}
    (ha : ∀ x, act.request = some x → x.2.Succeeds ∧ x.2.word = word) :
    PlantInv (EseManager.sessions.next s act).daemon (wordAfterAll word (act.calls s.daemon)) := by
  cases hr : act.request with
  | none =>
    have hd : (EseManager.sessions.next s act).daemon = s.daemon := by
      simp only [EseManager.sessions, Action.daemonAfter, hr]
    have hc : act.calls s.daemon = [] := by simp only [Action.calls, Action.reply, hr, Option.map_none]
    rw [hd, hc]
    exact h
  | some x =>
    obtain ⟨hsucc, hword⟩ := ha x hr
    have hd : (EseManager.sessions.next s act).daemon = (handle s.daemon x.1 x.2).state := by
      simp only [EseManager.sessions, Action.daemonAfter, hr, daemon_next]
    have hc : act.calls s.daemon = (handle s.daemon x.1 x.2).calls := by
      simp only [Action.calls, Action.reply, hr, Option.map_some, daemon_out]
    have hsame : { x.2 with word := word } = x.2 := by rw [← hword]
    have hkey := plantInv_step (p := ⟨s.daemon, word⟩) h hsucc
    simp only [plant, hsame] at hkey
    rw [hd, hc]
    exact hkey

/-! ## One hold for every running thread -/

/-- The running threads once one of them has gone to a place of the sequence. -/
theorem running_setPhase {s : Sessions Nat} {p : Phase} {i : Nat} (hs : s.phase = setPhase t.sessions.phase c.pid i p)
    (j : Nat) : c.Running { t with sessions := s } j ↔ if j = i then p ≠ .idle else c.Running t j := by
  unfold Running
  simp only [hs]
  by_cases hj : j = i
  · subst hj
    rw [if_pos rfl, setPhase_self]
  · rw [if_neg hj, setPhase_of_ne t.sessions.phase p fun he => hj he.2]

/-- What an action does to the running threads and to the holds of the process: a thread more and a hold more, a thread less and a
hold less, or the same. -/
theorem testInv_action {h : Holds Pid} (hi : TestInv c t h) {step : TestStep} {act : Action Nat}
    (hact : c.action t step = some act) (hs : c.Spares step) :
    let t' := after t act
    (∀ i, c.Running t' i → i < c.threadCount) ∧ (∀ i, c.Running t' i → uidAllowed c.uid = true) ∧
      holdsAfter (t.sessions, h) act c.pid = (c.running t').card := by
  intro t'
  have ho := action_inOrder hact hs
  obtain ⟨hon, hoff⟩ := action_uid hact
  have hrun : ∀ j, c.Running t' j ↔ c.Running { t with sessions := EseManager.sessions.next t.sessions act } j :=
    fun j => Iff.rfl
  have hsame : (∀ j, c.Running t' j ↔ c.Running t j) → holdsAfter (t.sessions, h) act c.pid = h c.pid →
      (∀ i, c.Running t' i → i < c.threadCount) ∧ (∀ i, c.Running t' i → uidAllowed c.uid = true) ∧
        holdsAfter (t.sessions, h) act c.pid = (c.running t').card := by
    intro hiff hh
    have hset : c.running t' = c.running t := Finset.filter_congr fun j _ => hiff j
    refine ⟨fun i hr => hi.numbered i ((hiff i).1 hr), fun i hr => hi.authorised i ((hiff i).1 hr), ?_⟩
    rw [hh, hset]
    exact hi.exact
  have hclient : (fun pid => pid = c.pid) c.pid := rfl
  cases act with
  | other r a => exact hsame (fun j => Iff.rfl) (holdsAfter_other (s := (t.sessions, h)) ho hclient)
  | getEseCplc pid i =>
    obtain ⟨rfl, hphase⟩ := ho
    refine hsame (fun j => ?_) rfl
    rw [hrun, running_setPhase (p := .read) rfl]
    by_cases hj : j = i
    · subst hj
      simp [Running, hphase]
    · rw [if_neg hj]
  | powerOn uid pid i notifier a =>
    obtain ⟨rfl, hphase⟩ := ho
    obtain ⟨rfl, hcreated⟩ := hon _ _ _ _ _ rfl
    have hlt := Nat.lt_of_lt_of_le hcreated hi.created
    have hidle : ¬c.Running t i := fun hr => hr hphase
    rcases powerOn_cases t.sessions.daemon c.uid c.pid notifier a with ⟨hneg, -⟩ | ⟨hone, hadm, -⟩
    · refine hsame (fun j => ?_) ?_
      · rw [hrun, running_setPhase rfl, Phase.afterPowerOn, if_pos hneg]
        by_cases hj : j = i
        · subst hj
          simpa using hidle
        · rw [if_neg hj]
      · rw [holdsAfter_powerOn, holdOp_powerOn_of_neg hneg, Holds.apply_keep]
    · have hiff : ∀ j, c.Running t' j ↔ j = i ∨ c.Running t j := by
        intro j
        rw [hrun, running_setPhase rfl, hone]
        by_cases hj : j = i
        · simp [hj, Phase.afterPowerOn]
        · simp [hj]
      have hset : c.running t' = insert i (c.running t) := by
        ext j
        rw [Finset.mem_insert, mem_running_iff hi.numbered]
        unfold running
        rw [Finset.mem_filter, Finset.mem_range, hiff]
        constructor
        · exact And.right
        · rintro (rfl | hr)
          · exact ⟨hlt, Or.inl rfl⟩
          · exact ⟨hi.numbered j hr, Or.inr hr⟩
      refine ⟨fun j hr => ?_, fun j _ => hadm.2.1, ?_⟩
      · rcases (hiff j).1 hr with rfl | hr
        · exact hlt
        · exact hi.numbered j hr
      · have hnot : i ∉ c.running t := fun hm => hidle ((mem_running_iff hi.numbered i).1 hm)
        rw [hset, Finset.card_insert_of_notMem hnot, holdsAfter_powerOn, hone, holdOp_powerOn_one, Holds.apply_acquire,
          Function.update_self]
        exact congrArg (· + 1) hi.exact
  | powerOff uid pid i a =>
    obtain ⟨rfl, hphase⟩ := ho
    obtain rfl := hoff _ _ _ _ rfl
    have hrunning : c.Running t i := by
      unfold Running
      rw [hphase]
      decide
    have hiff : ∀ j, c.Running t' j ↔ j ≠ i ∧ c.Running t j := by
      intro j
      rw [hrun, running_setPhase (p := .idle) rfl]
      by_cases hj : j = i <;> simp [hj]
    have hset : c.running t' = (c.running t).erase i := by
      ext j
      rw [Finset.mem_erase, mem_running_iff hi.numbered]
      unfold running
      rw [Finset.mem_filter, Finset.mem_range, hiff]
      exact ⟨And.right, fun hr => ⟨hi.numbered j hr.2, hr⟩⟩
    refine ⟨fun j hr => hi.numbered j ((hiff j).1 hr).2, fun j hr => hi.authorised j ((hiff j).1 hr).2, ?_⟩
    have hmem : i ∈ c.running t := (mem_running_iff hi.numbered i).2 hrunning
    rw [hset, Finset.card_erase_of_mem hmem, holdsAfter_powerOff, if_pos (hi.authorised i hrunning), Holds.apply_release,
      Function.update_self]
    exact congrArg (· - 1) hi.exact

/-- The holds after a step that is an action are those of `sessions` after it. -/
theorem heldTest_action {h : Holds Pid} {step : TestStep} {act : Action Nat} (hact : c.action t step = some act) :
    (heldTest c).next (t, h) step = (after t act, holdsAfter (t.sessions, h) act) := by
  simp only [heldTest, Machine.track, cplcTest, hact, Option.map_some]
  rfl

/-- A step that calls nothing leaves the daemon, the device and the places of the threads as they are. -/
theorem silent_leaves (t : TestRun) (step : TestStep) :
    (c.silent t step).sessions = t.sessions ∧ (c.silent t step).word = t.word := by
  cases step with
  | create ok =>
    simp only [silent]
    split_ifs <;> exact ⟨rfl, rfl⟩
  | test i =>
    simp only [silent]
    split_ifs <;> exact ⟨rfl, rfl⟩
  | _ => exact ⟨rfl, rfl⟩

/-- No more threads are created than the process is to have. -/
theorem silent_created (h : t.created ≤ c.threadCount) (step : TestStep) : (c.silent t step).created ≤ c.threadCount := by
  cases step with
  | create ok =>
    simp only [silent]
    split_ifs with hcreates hok
    · simp only [creates, Bool.and_eq_true, decide_eq_true_eq] at hcreates
      exact hcreates.2
    · exact h
    · exact h
  | test i =>
    simp only [silent]
    split_ifs <;> exact h
  | _ => exact h

theorem heldTest_silent {h : Holds Pid} {step : TestStep} (hact : c.action t step = none) :
    (heldTest c).next (t, h) step = (c.silent t step, h) := by
  simp only [heldTest, Machine.track, cplcTest, hact, Option.map_none, Holds.apply_keep]

/-- A step keeps the invariant when it keeps out of the way of the process and its calls succeed, as long as no pid reaches 2^31
holds. -/
theorem testInv_step {x : TestRun × Holds Pid} (hi : TestInv c x.1 x.2) {step : TestStep} (hs : c.Spares step)
    (ha : step.Succeeds) (hb : ((heldTest c).next x step).2.Below (2 ^ 31)) :
    TestInv c ((heldTest c).next x step).1 ((heldTest c).next x step).2 := by
  obtain ⟨t, h⟩ := x
  cases hact : c.action t step with
  | none =>
    obtain ⟨hsess, hword⟩ := silent_leaves (c := c) t step
    have hcreated := silent_created hi.created step
    rw [heldTest_silent hact]
    generalize c.silent t step = t' at hsess hword hcreated ⊢
    have hrun : ∀ i, c.Running t' i ↔ c.Running t i := by
      intro i
      unfold Running
      rw [hsess]
    have hset : c.running t' = c.running t := Finset.filter_congr fun i _ => hrun i
    refine ⟨?_, ?_, hcreated, fun i hr => hi.numbered i ((hrun i).1 hr), fun i hr => hi.authorised i ((hrun i).1 hr), ?_⟩
    · rw [hsess]
      exact hi.sessions
    · rw [hsess, hword]
      exact hi.plant
    · rw [hset]
      exact hi.exact
  | some act =>
    rw [heldTest_action hact] at hb ⊢
    obtain ⟨hnum, hauth, hexact⟩ := testInv_action hi hact hs
    exact ⟨sessionsInv_step hi.sessions (action_inOrder hact hs) hb,
      plantInv_action hi.plant fun x hx => action_succeeds hact ha hx, hi.created, hnum, hauth, hexact⟩

theorem testInv_start {word : BitVec 32} (hi : NoConflict word) (hoff : ¬SpiPower word) :
    TestInv c (heldTestStart word).1 (heldTestStart word).2 := by
  have hidle : ∀ i, ¬c.Running (TestRun.start word) i := fun i hr => hr rfl
  refine ⟨⟨Tracks.empty, ?_, ?_⟩, ⟨⟨fun h => absurd h hoff, fun h => ?_⟩, hi, fun h => ?_⟩, Nat.zero_le _, ?_, ?_, ?_⟩
  · intro pid us hus
    rcases us.eq_empty_or_nonempty with hemp | ⟨u, hu⟩
    · rw [hemp, Finset.card_empty]
      exact Nat.zero_le _
    · exact absurd rfl (hus u hu)
  · intro pid thread h
    exact absurd rfl h
  · exact absurd h (by simp [heldTestStart, TestRun.start, Sessions.init, State.init])
  · exact absurd h (by simp [heldTestStart, TestRun.start, Sessions.init, State.init])
  · exact fun i hr => absurd hr (hidle i)
  · exact fun i hr => absurd hr (hidle i)
  · have hnone : c.running (TestRun.start word) = ∅ := Finset.filter_false_of_mem fun i _ => hidle i
    exact (Finset.card_eq_zero.2 hnone).symm

/-! ## The end of the process -/

/-- What the invariant says about the daemon: the thread count of the process is the number of its running threads, and each of
them finds the eSE on. -/
theorem TestInv.threadCount {h : Holds Pid} (hi : TestInv c t h) :
    EseManager.threadCount t.sessions.daemon.pidsMap c.pid = (c.running t).card ∧
      ((c.running t).Nonempty → SpiPower t.word) := by
  have himpl : Implements ⟨t.sessions.daemon, t.word⟩ h := implements_of_inv hi.plant hi.sessions.tracks
  refine ⟨by rw [himpl.counts, hi.exact], fun hne => himpl.power.2 ⟨c.pid, ?_⟩⟩
  rw [hi.exact]
  exact Finset.card_pos.2 hne

/-- What the last `getState` of the process prints, with the eSE off. -/
theorem getState_off {s : State} {word : BitVec 32} (hoff : ¬SpiPower word) {a : Answers} (ha : a.Succeeds)
    (hw : a.word = word) : ¬SpiPower (BitVec.ofInt 32 (getState s a).ret) := by
  have hn := nodeAfterOpen_nonneg (s := s) ha
  have hcur : eseCurrentState a = word := by
    unfold eseCurrentState
    rw [if_neg (Int.not_lt.2 ha.status), hw]
  have hret : (getState s a).ret = word.toInt := by
    simp only [getState, openNode_eq, if_neg (Int.not_lt.2 hn), hcur]
  rw [hret, BitVec.ofInt_toInt]
  exact hoff

/-! ## The calls that are left -/

/-- The calls a thread may still make: three for each iteration, the one it is in included; once `g_quit` is set, those that end this
iteration, which has begun when the test of the loop is passed. -/
def leftOf (quit entered : Bool) (count : Nat) : Phase → Nat
  | .idle => if quit then (if entered then 3 else 0) else 3 * count
  | .powered => if quit then 2 else 3 * count - 1
  | .read => if quit then 1 else 3 * count - 2

theorem leftOf_idle (count : Nat) : leftOf false false count .idle = 3 * count := rfl

theorem leftOf_quit_le (entered : Bool) (count : Nat) (p : Phase) :
    leftOf true entered count p ≤ if entered = true then 3 else 2 := by
  cases p <;> cases entered <;> simp [leftOf]

/-- The calls that a thread of the process may still make. -/
def left (c : CplcTest) (t : TestRun) (i : Nat) : Nat := leftOf t.gQuit (t.entered i) (t.count i) (t.sessions.phase c.pid i)

/-- The step was a call of this thread. -/
def isCallOf (i : Nat) : Option (Action Nat × Option (Int × List Call)) → Bool
  | some (.powerOn _ _ j _ _, _) => j = i
  | some (.getEseCplc _ j, _) => j = i
  | some (.powerOff _ _ j _, _) => j = i
  | _ => false

/-- What every run keeps of the threads: those in an iteration have not counted it down yet, and are past the test of their loop only
before they call. -/
structure Counted (c : CplcTest) (t : TestRun) : Prop where
  created : t.created ≤ c.threadCount
  running : ∀ i, c.Running t i → 0 < t.count i
  entered : ∀ i, t.entered i = true → 0 < t.count i ∧ ¬c.Running t i

/-- A thread is at the same place with the same count. -/
structure Same (c : CplcTest) (t t' : TestRun) (i : Nat) : Prop where
  phase : t'.sessions.phase c.pid i = t.sessions.phase c.pid i
  count : t'.count i = t.count i
  entered : t'.entered i = t.entered i

theorem Same.running {t' : TestRun} {i : Nat} (h : Same c t t' i) : c.Running t' i ↔ c.Running t i := by
  unfold Running
  rw [h.phase]

theorem Same.left_eq {t' : TestRun} {i : Nat} (h : Same c t t' i) (hq : t'.gQuit = t.gQuit) : left c t' i = left c t i := by
  unfold left
  rw [h.phase, h.count, h.entered, hq]

/-- What a call does to the thread that makes it, and to no other. -/
theorem call_progress {i : Nat} {cb : Binder} {a : Answers} {act : Action Nat} (h : c.nextCall t i cb a = some act)
    (hc : Counted c t) :
    ∃ p n, (after t act).sessions.phase = setPhase t.sessions.phase c.pid i p ∧
      (after t act).count = Function.update t.count i n ∧ (after t act).entered = Function.update t.entered i false ∧
      (p ≠ .idle → 0 < n) ∧ leftOf t.gQuit false n p < left c t i := by
  have hrunning := hc.running i
  have hfresh : c.Running t i → Function.update t.entered i false = t.entered := by
    intro hr
    rw [Function.update_eq_self_iff, eq_comm, Bool.eq_false_iff]
    exact fun he => (hc.entered i he).2 hr
  unfold Running at hrunning hfresh
  unfold nextCall at h
  unfold left
  split at h
  · cases h
  · split at h
    · rename_i hp
      split at h
      · rename_i hentered
        cases h
        have hpos := (hc.entered i hentered).1
        by_cases hneg : (powerOn t.sessions.daemon c.uid c.pid (some cb) a).ret < 0
        · refine ⟨.idle, t.count i - 1, ?_, ?_, rfl, fun hne => absurd rfl hne, ?_⟩
          · simp only [after, EseManager.sessions, phaseAfter, Phase.afterPowerOn, if_pos hneg]
          · simp only [after, countAfter, ended, if_pos hneg]
          · rw [hp, hentered]
            cases t.gQuit <;> simp only [leftOf, if_true, Bool.false_eq_true, if_false] <;> omega
        · refine ⟨.powered, t.count i, ?_, ?_, rfl, fun _ => hpos, ?_⟩
          · simp only [after, EseManager.sessions, phaseAfter, Phase.afterPowerOn, if_neg hneg]
          · simp only [after, countAfter, ended, if_neg hneg, Function.update_eq_self]
          · rw [hp, hentered]
            cases t.gQuit <;> simp only [leftOf, if_true, Bool.false_eq_true, if_false] <;> omega
      · cases h
    · rename_i hp
      cases h
      have hrun : t.sessions.phase c.pid i ≠ .idle := by
        rw [hp]
        decide
      have hpos := hrunning hrun
      refine ⟨.read, t.count i, rfl, ?_, (hfresh hrun).symm, fun _ => hpos, ?_⟩
      · simp only [after, countAfter, ended, Function.update_eq_self]
      · rw [hp]
        cases t.gQuit <;> simp only [leftOf, if_true, Bool.false_eq_true, if_false] <;> omega
    · rename_i hp
      cases h
      have hrun : t.sessions.phase c.pid i ≠ .idle := by
        rw [hp]
        decide
      have hpos := hrunning hrun
      refine ⟨.idle, t.count i - 1, rfl, rfl, (hfresh hrun).symm, fun hne => absurd rfl hne, ?_⟩
      rw [hp]
      cases t.gQuit <;> simp only [leftOf, if_true, Bool.false_eq_true, if_false] <;> omega

/-- A call of a thread keeps what is counted, leaves that thread a call less, and the others what they had. -/
theorem left_call {i : Nat} {cb : Binder} {a : Answers} {act : Action Nat} (h : c.nextCall t i cb a = some act)
    (hc : Counted c t) :
    Counted c (after t act) ∧ ∀ j, (if j = i then 1 else 0) + left c (after t act) j ≤ left c t j := by
  obtain ⟨p, n, hphase, hcount, hentered, hpos, hless⟩ := call_progress h hc
  have hself : left c (after t act) i = leftOf t.gQuit false n p := by
    unfold left
    rw [hphase, hcount, hentered, setPhase_self, Function.update_self, Function.update_self]
    rfl
  have hother : ∀ j, j ≠ i → Same c t (after t act) j := by
    intro j hj
    refine ⟨?_, ?_, ?_⟩
    · rw [hphase]
      exact setPhase_of_ne t.sessions.phase p fun he => hj he.2
    · rw [hcount, Function.update_of_ne hj]
    · rw [hentered, Function.update_of_ne hj]
  refine ⟨⟨hc.created, fun j hr => ?_, fun j he => ?_⟩, fun j => ?_⟩
  · by_cases hj : j = i
    · subst hj
      rw [hcount, Function.update_self]
      refine hpos ?_
      unfold Running at hr
      rwa [hphase, setPhase_self] at hr
    · rw [(hother j hj).count]
      exact hc.running j ((hother j hj).running.1 hr)
  · by_cases hj : j = i
    · subst hj
      rw [hentered, Function.update_self] at he
      exact absurd he Bool.false_ne_true
    · rw [(hother j hj).entered] at he
      rw [(hother j hj).count, (hother j hj).running]
      exact hc.entered j he
  · by_cases hj : j = i
    · subst hj
      rw [if_pos rfl, hself]
      omega
    · rw [if_neg hj, (hother j hj).left_eq rfl, Nat.zero_add]

/-- An interrupt leaves a thread no more calls than it had. -/
theorem left_sigint (hc : Counted c t) (i : Nat) : left c { t with gQuit := true } i ≤ left c t i := by
  have hrunning := hc.running i
  have hentered := fun he => (hc.entered i he).1
  unfold Running at hrunning
  unfold left
  cases hq : t.gQuit with
  | true => exact Nat.le_refl _
  | false =>
    cases hp : t.sessions.phase c.pid i with
    | idle =>
      cases he : t.entered i with
      | false => simp [leftOf]
      | true =>
        have hpos := hentered he
        simp only [leftOf, if_true, Bool.false_eq_true, if_false]
        omega
    | powered =>
      have hpos := hrunning (by rw [hp]; decide)
      simp only [leftOf, if_true, Bool.false_eq_true, if_false]
      omega
    | read =>
      have hpos := hrunning (by rw [hp]; decide)
      simp only [leftOf, if_true, Bool.false_eq_true, if_false]
      omega

/-- A step that calls nothing keeps what is counted, and gives no thread a call more. -/
theorem left_silent (hc : Counted c t) (step : TestStep) :
    Counted c (c.silent t step) ∧ ∀ i, left c (c.silent t step) i ≤ left c t i := by
  have hcreated := silent_created hc.created step
  cases step with
  | create ok =>
    simp only [silent] at hcreated ⊢
    split_ifs at hcreated ⊢
    · exact ⟨⟨hcreated, hc.running, hc.entered⟩, fun _ => Nat.le_refl _⟩
    · exact ⟨⟨hcreated, hc.running, hc.entered⟩, fun _ => Nat.le_refl _⟩
    · exact ⟨hc, fun _ => Nat.le_refl _⟩
  | test i =>
    simp only [silent]
    split_ifs with hpass
    · simp only [passes, Bool.and_eq_true, decide_eq_true_eq, Bool.not_eq_true'] at hpass
      obtain ⟨⟨⟨⟨-, hidle⟩, -⟩, hcount⟩, hquit⟩ := hpass
      refine ⟨⟨hc.created, hc.running, fun j he => ?_⟩, fun j => ?_⟩
      · by_cases hj : j = i
        · subst hj
          exact ⟨Nat.pos_of_ne_zero hcount, fun hr => hr hidle⟩
        · exact hc.entered j ((Function.update_of_ne hj true t.entered).symm.trans he)
      · by_cases hj : j = i
        · subst hj
          simp [left, leftOf, hidle, hquit]
        · simp [left, hj]
    · exact ⟨hc, fun _ => Nat.le_refl _⟩
  | sigint => exact ⟨⟨hc.created, hc.running, hc.entered⟩, left_sigint hc⟩
  | call i cb a => exact ⟨hc, fun _ => Nat.le_refl _⟩
  | other r a => exact ⟨hc, fun _ => Nat.le_refl _⟩

/-- Every step keeps what is counted, and a call of a thread leaves it a call less; nothing gives it one more. -/
theorem left_step (hc : Counted c t) (step : TestStep) :
    Counted c ((cplcTest c).next t step) ∧
      ∀ i, (if isCallOf i ((cplcTest c).out t step) = true then 1 else 0) + left c ((cplcTest c).next t step) i ≤ left c t i := by
  cases hact : c.action t step with
  | none =>
    have hnext : (cplcTest c).next t step = c.silent t step := by simp only [cplcTest, hact]
    have hout : (cplcTest c).out t step = none := by simp only [cplcTest, hact, Option.map_none]
    obtain ⟨hkept, hleft⟩ := left_silent hc step
    rw [hnext, hout]
    exact ⟨hkept, fun i => by simpa [isCallOf] using hleft i⟩
  | some act =>
    have hnext : (cplcTest c).next t step = after t act := by simp only [cplcTest, hact]
    have hout : (cplcTest c).out t step = some (act, act.reply t.sessions.daemon) := by
      simp only [cplcTest, hact, Option.map_some]
    rw [hnext, hout]
    cases step with
    | create => cases hact
    | test => cases hact
    | sigint => cases hact
    | other r a =>
      cases hact
      have hsame : ∀ i, Same c t (after t (.other r { a with word := t.word })) i := fun _ => ⟨rfl, rfl, rfl⟩
      exact ⟨⟨hc.created, hc.running, hc.entered⟩, fun i => by simp [isCallOf, (hsame i).left_eq rfl]⟩
    | call i cb a =>
      obtain ⟨hkept, hleft⟩ := left_call hact hc
      have hwho : ∀ j, isCallOf j (some (act, act.reply t.sessions.daemon)) = decide (i = j) := by
        obtain ⟨-, ⟨-, rfl⟩ | ⟨-, rfl⟩ | ⟨-, rfl⟩⟩ := nextCall_cases hact <;> exact fun _ => rfl
      refine ⟨hkept, fun j => ?_⟩
      simpa only [hwho, decide_eq_true_eq, eq_comm (a := i)] using hleft j

/-- The calls a thread makes in a run and those that are left to it then are no more than were left before. -/
theorem left_run (hc : Counted c t) (steps : List TestStep) :
    Counted c ((cplcTest c).run t steps) ∧
      ∀ i, ((cplcTest c).outs t steps).countP (isCallOf i) + left c ((cplcTest c).run t steps) i ≤ left c t i := by
  induction steps generalizing t with
  | nil => exact ⟨hc, fun i => by simp [Machine.outs]⟩
  | cons step steps ih =>
    obtain ⟨hnext, hone⟩ := left_step hc step
    obtain ⟨hend, hrest⟩ := ih hnext
    refine ⟨hend, fun i => ?_⟩
    have hone := hone i
    have hrest := hrest i
    rw [Machine.outs, List.countP_cons, Machine.run_cons]
    omega

theorem counted_start (word : BitVec 32) : Counted c (TestRun.start word) :=
  ⟨Nat.zero_le _, fun _ hr => absurd rfl hr, fun _ he => absurd he Bool.false_ne_true⟩

/-! ## Nothing is stuck -/

/-- A thread that is alive has nothing to do exactly when it can be joined. -/
theorem thread_done_iff {i : Nat} (halive : alive t i = true) :
    (c.passes t i = false ∧ ∀ cb a, c.nextCall t i cb a = none) ↔
      ¬c.Running t i ∧ t.entered i = false ∧ (t.count i = 0 ∨ t.gQuit = true) := by
  have hanswers : Nonempty Answers := ⟨working⟩
  unfold Running passes nextCall
  rw [halive]
  cases hp : t.sessions.phase c.pid i with
  | idle =>
    cases he : t.entered i <;> cases hq : t.gQuit <;> simp
  | powered => simp
  | read => simp

/-- The process can do nothing more exactly when it has given up or every thread can be joined. -/
theorem stopped_iff (hc : Counted c t) : (t.exited = true ∨ c.Joined t) ↔ c.Stopped t := by
  unfold Joined Stopped creates
  cases hexited : t.exited with
  | true => simp [passes, nextCall, alive, hexited]
  | false =>
    have hcreated := hc.created
    have hend : (!false && decide (t.created < c.threadCount)) = false ↔ t.created = c.threadCount := by
      rw [Bool.not_false, Bool.true_and, decide_eq_false_iff_not]
      omega
    rw [hend]
    simp only [Bool.false_eq_true, false_or]
    refine and_congr_right fun hall => ⟨fun hdone i => ?_, fun hdone i hi => ?_⟩
    · cases halive : alive t i with
      | true => exact (thread_done_iff halive).2 (hdone i (hall ▸ (alive_iff.1 halive).2))
      | false =>
        unfold passes nextCall
        simp [halive]
    · exact (thread_done_iff (alive_iff.2 ⟨hexited, hall ▸ hi⟩)).1 (hdone i)

end CplcTest

open CplcTest

/-- From a fresh daemon, with the eSE off, no access on priority and no firmware download in progress, next to every other client of the
daemon that does not kill all, with no call failing and fewer than 2^31 holds of every pid, in every order of the calls and until the
process is known to have died: at all times the daemon counts for the process as many holds as it has threads between `powerOn` and `powerOff`, and each of
these finds the eSE on. Once all threads can be joined the process is not registered any more, and when nobody else is either, the
eSE is off and the state that the process then reads shows it off. -/
theorem getCplcTest_ends_clean (c : CplcTest) (word : BitVec 32) (hi : NoConflict word) (hoff : ¬SpiPower word)
    (steps : List TestStep) (hs : ∀ step ∈ steps, c.Spares step ∧ step.Succeeds)
    (hb : (heldTest c).Always (fun x => x.2.Below (2 ^ 31)) (heldTestStart word) steps) :
    let t := (cplcTest c).run (TestRun.start word) steps
    threadCount t.sessions.daemon.pidsMap c.pid = (c.running t).card ∧ ((c.running t).Nonempty → SpiPower t.word) ∧
      (c.Joined t → c.pid ∉ t.sessions.daemon.pidsMap ∧
        (t.sessions.daemon.pidsMap.isEmpty = true → ¬SpiPower t.word ∧
          ∀ a : Answers, a.Succeeds →
            ¬SpiPower (BitVec.ofInt 32 (getState t.sessions.daemon { a with word := t.word }).ret))) := by
  intro t
  have hinv : TestInv c ((heldTest c).run (heldTestStart word) steps).1 ((heldTest c).run (heldTestStart word) steps).2 := by
    have hsteps : (heldTest c).Along (fun x step => (c.Spares step ∧ step.Succeeds) ∧
        ((heldTest c).next x step).2.Below (2 ^ 31)) (heldTestStart word) steps :=
      Machine.along_and.2 ⟨(heldTest c).along_of_forall_mem (fun step hm _ => hs step hm) _, hb.along_next⟩
    exact Machine.run_inv (I := fun x => TestInv c x.1 x.2) (fun x step h hp => testInv_step h hp.1.1 hp.1.2 hp.2)
      (testInv_start hi hoff) hsteps
  have hfst : ((heldTest c).run (heldTestStart word) steps).1 = t :=
    (cplcTest c).track_run_fst _ (TestRun.start word) _ steps
  rw [hfst] at hinv
  obtain ⟨hcount, hpower⟩ := hinv.threadCount
  refine ⟨hcount, hpower, fun hjoined => ⟨?_, fun hempty => ?_⟩⟩
  · have hnone : c.running t = ∅ := Finset.filter_false_of_mem fun i hm => (hjoined.2 i (Finset.mem_range.1 hm)).1
    rw [hinv.sessions.tracks.mem_iff, hinv.exact, hnone]
    exact Nat.lt_irrefl 0
  · have hword : ¬SpiPower t.word := by
      rw [hinv.plant.power, hempty]
      exact Bool.noConfusion
    exact ⟨hword, fun a ha => getState_off hword (ha.with_word t.word) rfl⟩

/-- Two threads; while one is running and the other past the test of its loop, the process is interrupted. -/
def interrupted : List TestStep :=
  [.create true, .create true, .test 0, .call 0 1 working, .test 1, .other .getState working, .sigint, .call 1 2 working,
    .call 0 3 working, .call 0 3 working, .call 1 3 working, .call 1 3 working]

/-- Both threads end their iteration, and the process leaves nothing behind. -/
theorem getCplcTest_ends_clean_interrupted :
    let c := CplcTest.ofMain 5 1000 (some 2)
    5 ∉ ((cplcTest c).run (TestRun.start 0x100#32) interrupted).sessions.daemon.pidsMap := by
  intro c
  have hs : ∀ step ∈ interrupted, c.Spares step ∧ step.Succeeds := by
    intro step hstep
    simp only [interrupted, List.mem_cons, List.not_mem_nil, or_false] at hstep
    rcases hstep with rfl | rfl | rfl | rfl | rfl | rfl | rfl | rfl | rfl | rfl | rfl | rfl
    · exact ⟨trivial, trivial⟩
    · exact ⟨trivial, trivial⟩
    · exact ⟨trivial, trivial⟩
    · exact ⟨trivial, working_succeeds⟩
    · exact ⟨trivial, trivial⟩
    · exact ⟨trivial, working_succeeds⟩
    · exact ⟨trivial, trivial⟩
    · exact ⟨trivial, working_succeeds⟩
    · exact ⟨trivial, working_succeeds⟩
    · exact ⟨trivial, working_succeeds⟩
    · exact ⟨trivial, working_succeeds⟩
    · exact ⟨trivial, working_succeeds⟩
  obtain ⟨-, -, hclean⟩ := getCplcTest_ends_clean c 0x100#32 ⟨by decide, by decide⟩ (by decide) interrupted hs
    (Holds.always_below_of_length_lt (cplcTest c) _ _ (by decide))
  refine (hclean ⟨by decide, fun i hi => ?_⟩).1
  have hquit : ((cplcTest c).run (TestRun.start 0x100#32) interrupted).gQuit = true := by decide
  obtain rfl | rfl : i = 0 ∨ i = 1 := by
    have hlt : i < 2 := hi
    omega
  · exact ⟨by decide, by decide, Or.inr hquit⟩
  · exact ⟨by decide, by decide, Or.inr hquit⟩

/-- Under every schedule, whatever the daemon replies and whoever else uses it: each thread makes at most three million calls; the
process is never stuck, for it can do nothing more exactly when it has given up over a thread that could not be created or every
thread can be joined; and once it is interrupted, each thread makes at most two more calls, or three when it is between the test of
its loop and the `powerOn` after it. -/
theorem getCplcTest_ends (c : CplcTest) (word : BitVec 32) (steps later : List TestStep) :
    let t := (cplcTest c).run (TestRun.start word) steps
    (∀ i, ((cplcTest c).outs (TestRun.start word) steps).countP (isCallOf i) ≤ 3000000) ∧
      ((t.exited = true ∨ c.Joined t) ↔ c.Stopped t) ∧
      (t.gQuit = true → ∀ i, ((cplcTest c).outs t later).countP (isCallOf i) ≤ if t.entered i = true then 3 else 2) := by
  intro t
  obtain ⟨hcounted, hcalls⟩ := left_run (counted_start word) steps
  refine ⟨fun i => ?_, stopped_iff hcounted, fun hquit i => ?_⟩
  · have hall : left c (TestRun.start word) i = 3 * 1000000 := leftOf_idle 1000000
    have hmade := hcalls i
    omega
  · have hlater := (left_run hcounted later).2 i
    have hfew : left c t i ≤ if t.entered i = true then 3 else 2 := by
      unfold left
      rw [hquit]
      exact leftOf_quit_le _ _ _
    exact Nat.le_trans (Nat.le_trans (Nat.le_add_right _ _) hlater) hfew

end EseManager
