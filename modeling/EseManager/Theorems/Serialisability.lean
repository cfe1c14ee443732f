import EseManager.Lemmas.RaceBits

/-!
# Death notices and power requests are not serialisable

A `powerOn` and a `binderDied` that interleave should leave the map and the power of the eSE as one of the two serial orders does.
`serialisable_iff` says exactly when they do. What goes wrong is that each decides before it acts: `binderDied` finds the map empty
and switches off later, `powerOn` finds the eSE on, or switches it on, and enters its caller later.
-/

namespace EseManager

/-- The end of a race: the map, and whether the eSE has SPI power. -/
def raceOutcome (c : Contenders) (s : State) (word : BitVec 32) (order : List Step) : PidsMap × Bool :=
  (((race c).run (.start s word) order).daemon.pidsMap, has ((race c).run (.start s word) order).word p61StateSpi)

/-- The end of the race is that of one of the two serial orders. -/
def Serialisable (c : Contenders) (s : State) (word : BitVec 32) (order : List Step) : Prop :=
  raceOutcome c s word order = raceOutcome c s word (powerOnSteps ++ binderDiedSteps) ∨
    raceOutcome c s word order = raceOutcome c s word (binderDiedSteps ++ powerOnSteps)

/-- The order of steps goes wrong: nobody but the dead process is registered, and
* with the eSE off and nothing else going on, `powerOn` switches it on before `binderDied` switches it off, and `binderDied` tests
  the map before `powerOn` enters its caller;
* with the eSE on, `powerOn` reads the status word before `binderDied` switches off, and either `binderDied` tests the map before
  `powerOn` enters its caller (and no access on priority makes `powerOn` in one serial order leave the eSE off as well), or another
  bit of the status word keeps `powerOn` from switching on, both are of one pid, and the pid is entered between its erasure and the
  test of the map. -/
def GoesWrong (c : Contenders) (s : State) (word : BitVec 32) (order : List Step) : Prop :=
  (s.pidsMap.erase c.mPid).isEmpty = true ∧
    if SpiPower word then
      Before .readStatus .switchOff order ∧
        ((Before .testEmpty .insert order ∧ (has word p61StateSpiPrio = false ∨ s.nqNode < 0)) ∨
          ((has word p61StateSpiPrio = true ∨ has word p61StateDwnld = true) ∧ 0 ≤ s.nqNode ∧ c.mPid = c.pid ∧
            Before .erase .insert order ∧ Before .insert .testEmpty order))
    else
      has word p61StateSpiPrio = false ∧ has word p61StateDwnld = false ∧ Before .testEmpty .insert order ∧
        Before .switchOn .switchOff order

/-! ## The serial orders are the handlers -/

/-- First the request, then the notice. -/
theorem raceOutcome_powerOn_first (c : Contenders) {s : State} {uid : Int} (word : BitVec 32)
    (h : Admitted s uid { c.answers with word := word }) :
    let on := powerOn s uid c.pid (some c.cb) { c.answers with word := word }
    let died := binderDied on.state c.mPid c.answers
    raceOutcome c { s with isFirstCalled := false } word (powerOnSteps ++ binderDiedSteps) =
      (died.state.pidsMap, has (wordAfterAll (wordAfterAll word on.calls) died.calls) p61StateSpi) := by
  intro on died
  obtain ⟨hd, hw, -⟩ := run_powerOnSteps c (r := .start { s with isFirstCalled := false } word) rfl rfl h
  obtain ⟨hd', hw', -⟩ :=
    run_binderDiedSteps c ((race c).run (.start { s with isFirstCalled := false } word) powerOnSteps)
  rw [hd] at hd' hw'
  rw [hw] at hw'
  unfold raceOutcome
  rw [Machine.run_append, hd', hw']
  rfl

/-- First the notice, then the request. -/
theorem raceOutcome_binderDied_first (c : Contenders) {s : State} {uid : Int} (word : BitVec 32)
    (h : Admitted s uid { c.answers with word := word }) :
    let died := binderDied s c.mPid c.answers
    let on := powerOn died.state uid c.pid (some c.cb) { c.answers with word := wordAfterAll word died.calls }
    raceOutcome c { s with isFirstCalled := false } word (binderDiedSteps ++ powerOnSteps) =
      (on.state.pidsMap, has (wordAfterAll (wordAfterAll word died.calls) on.calls) p61StateSpi) := by
  intro died on
  obtain ⟨hd, hw, hret⟩ := run_binderDiedSteps c (.start { s with isFirstCalled := false } word)
  have hstate : (binderDied { s with isFirstCalled := false } c.mPid c.answers).state =
      { died.state with isFirstCalled := false } := by
    simp only [died, binderDied_eq]
    rfl
  have hcalls : (binderDied { s with isFirstCalled := false } c.mPid c.answers).calls = died.calls := by
    simp only [died, binderDied_eq]
  have hadm : Admitted died.state uid { c.answers with word := wordAfterAll word died.calls } := by
    simp only [died, binderDied_eq]
    exact h
  have hd := hd.trans hstate
  have hw : ((race c).run (.start { s with isFirstCalled := false } word) binderDiedSteps).word =
      wordAfterAll word died.calls := by
    rw [← hcalls]
    exact hw
  rw [← hw] at hadm
  obtain ⟨hd', hw', -⟩ := run_powerOnSteps c hret hd hadm
  unfold raceOutcome
  rw [Machine.run_append, hd', hw']
  simp only [hw]
  rfl

/-! ## The exact condition -/

theorem breaks_iff (c : Contenders) (s : State) (word : BitVec 32) (order : List Step) :
    Bits.Breaks (shape c s word) (decide (0 ≤ s.nqNode)) (has word p61StateSpi) order ↔ GoesWrong c s word order := by
  unfold Bits.Breaks GoesWrong SpiPower shape
  simp only [decide_eq_true_eq, decide_eq_false_iff_not, Int.not_le]

/-- Two maps with the dead process erased are the same when both have the caller of `powerOn` added, or neither. -/
theorem mapAfter_erased_inj (c : Contenders) (s : State) {x y : Bool} (h : mapAfter c s true x = mapAfter c s true y) :
    x = y := by
  have hne := addHold_ne (s.pidsMap.erase c.mPid) c.pid (newData c s)
  cases x with
  | true =>
    cases y with
    | true => rfl
    | false => exact absurd h hne
  | false =>
    cases y with
    | true => exact absurd h.symm hne
    | false => rfl

/-- Two orders end the same exactly when they do in bits. -/
theorem raceOutcome_eq_iff {c : Contenders} {s : State} {word : BitVec 32} (ha : c.answers.Succeeds)
    {order order' : List Step} (ho : Shuffle powerOnSteps binderDiedSteps order)
    (ho' : Shuffle powerOnSteps binderDiedSteps order') :
    raceOutcome c s word order = raceOutcome c s word order' ↔
      Bits.outcome (shape c s word) (decide (0 ≤ s.nqNode)) (has word p61StateSpi) order =
        Bits.outcome (shape c s word) (decide (0 ≤ s.nqNode)) (has word p61StateSpi) order' := by
  have hsim := bits_simulates s word ha ho
  have hsim' := bits_simulates s word ha ho'
  have herased := (bits_check (shape c s word).same (shape c s word).last (shape c s word).prio (shape c s word).dwnld
    (decide (0 ≤ s.nqNode)) (has word p61StateSpi) order (mem_shuffles_iff.2 ho)).1
  have herased' := (bits_check (shape c s word).same (shape c s word).last (shape c s word).prio (shape c s word).dwnld
    (decide (0 ≤ s.nqNode)) (has word p61StateSpi) order' (mem_shuffles_iff.2 ho')).1
  have hmap := hsim.map
  have hmap' := hsim'.map
  rw [herased] at hmap
  rw [herased'] at hmap'
  unfold raceOutcome Bits.outcome
  rw [hmap, hmap', hsim.spi, hsim'.spi, Prod.mk.injEq, Prod.mk.injEq]
  constructor
  · intro h
    exact ⟨mapAfter_erased_inj c s h.1, h.2⟩
  · intro h
    exact ⟨by rw [h.1], h.2⟩

/-- For every starting state, status word, pids and order of steps, with every device call succeeding: the end of the race is that
of a serial order exactly when the order does not go wrong; and then a `powerOn` that has returned 1 to another pid than that of
the dead process leaves the eSE on, unless the status word shows an access on priority. -/
theorem serialisable_iff (c : Contenders) (s : State) (word : BitVec 32) (order : List Step) (ha : c.answers.Succeeds)
    (ho : Shuffle powerOnSteps binderDiedSteps order) :
    (Serialisable c s word order ↔ ¬GoesWrong c s word order) ∧
      (Serialisable c s word order → c.mPid ≠ c.pid → has word p61StateSpiPrio = false →
        ((race c).run (.start s word) order).ret = some 1 → SpiPower ((race c).run (.start s word) order).word) := by
  obtain ⟨-, hcheck, hon⟩ := bits_check (shape c s word).same (shape c s word).last (shape c s word).prio
    (shape c s word).dwnld (decide (0 ≤ s.nqNode)) (has word p61StateSpi) order (mem_shuffles_iff.2 ho)
  have hiff : Serialisable c s word order ↔ ¬GoesWrong c s word order := by
    unfold Serialisable
    rw [raceOutcome_eq_iff ha ho (Shuffle.append _ _), raceOutcome_eq_iff ha ho (Shuffle.append_swap _ _), ← breaks_iff]
    exact hcheck
  refine ⟨hiff, fun hser hne hprio hone => ?_⟩
  have hsim := bits_simulates s word ha ho
  have hright : ¬Bits.Breaks (shape c s word) (decide (0 ≤ s.nqNode)) (has word p61StateSpi) order := by
    rw [breaks_iff]
    exact hiff.1 hser
  have hspi := hon (by simp [shape, hne]) hprio hright (hsim.one hne hone)
  exact hsim.spi.trans hspi

/-- Pid 5 holds the eSE. -/
def heldByFive : State := daemon.run State.init [(.powerOn 1000 5 (some 1), working)]

/-- Pid 5 dies while pid 6 powers on. -/
def fiveAndSix : Contenders := { mPid := 5, pid := 6, cb := 2, answers := working }

/-- `powerOn` reads that the eSE is on, `binderDied` erases pid 5 and finds the map empty, `powerOn` enters pid 6 and returns 1, and
`binderDied` switches the eSE off. -/
theorem race_powers_off_new_client :
    let order : List Step := [.readStatus, .erase, .testEmpty, .switchOn, .link, .insert, .switchOff]
    Shuffle powerOnSteps binderDiedSteps order ∧
      ((race fiveAndSix).run (.start heldByFive 0x0500#32) order).ret = some 1 ∧
      6 ∈ ((race fiveAndSix).run (.start heldByFive 0x0500#32) order).daemon.pidsMap ∧
      ¬SpiPower ((race fiveAndSix).run (.start heldByFive 0x0500#32) order).word ∧
      ¬Serialisable fiveAndSix heldByFive 0x0500#32 order := by
  refine ⟨?_, by decide, by decide, by decide, ?_⟩
  · rw [← mem_shuffles_iff]
    decide
  · intro h
    rcases h with h | h
    · exact absurd (congrArg Prod.snd h) (by decide)
    · exact absurd (congrArg Prod.snd h) (by decide)

/-- When pid 6 is entered before the map is tested, all is well. -/
theorem serialisable_inserted_first :
    Serialisable fiveAndSix heldByFive 0x0500#32
        [.readStatus, .erase, .switchOn, .link, .insert, .testEmpty, .switchOff] ∧
      SpiPower ((race fiveAndSix).run (.start heldByFive 0x0500#32)
        [.readStatus, .erase, .switchOn, .link, .insert, .testEmpty, .switchOff]).word := by
  have ho : Shuffle powerOnSteps binderDiedSteps
      [.readStatus, .erase, .switchOn, .link, .insert, .testEmpty, .switchOff] := by
    rw [← mem_shuffles_iff]
    decide
  obtain ⟨hiff, hon⟩ := serialisable_iff fiveAndSix heldByFive 0x0500#32 _ working_succeeds ho
  have hser := hiff.2 (by
    intro hwrong
    obtain ⟨-, hwrong⟩ := hwrong
    rw [if_pos (by decide)] at hwrong
    rcases hwrong.2 with h | h
    · exact absurd h.1 (by decide)
    · exact absurd h.2.2.1 (by decide))
  exact ⟨hser, hon hser (by decide) (by decide) (by decide)⟩

end EseManager
