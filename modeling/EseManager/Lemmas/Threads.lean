import EseManager.Lemmas.ReleaseRace
import EseManager.Theorems.RefCount
import EseManager.Threads

/-!
# The daemon as a room

The registered pids are in a room, which is lit while the eSE has SPI power. The `powerOff` that has the mutex and the notices are the
workers: each lets a pid out, looks at the map, and switches the eSE off if it is empty. `powerOff_acts` and `notice_acts` say what
each access does to the room, `CallExit` says it of the other requests.
-/

namespace EseManager

/-- What `powerOff` does next, as a worker. -/
@[simp]
def OffPlace.phase : OffPlace → Room.Phase
  | .testEmpty => .looking
  | .switchOff => .turningOff
  | _ => .idle

/-- What a notice does next, as a worker. -/
@[simp]
def DiedPlace.phase : DiedPlace → Room.Phase
  | .testEmpty => .looking
  | .testNode => .turningOff
  | .switchOff => .turningOff
  | _ => .idle

@[simp] theorem DiedPlace.phase_remapped (m m' : PidsMap) (o : DiedPlace) : (o.remapped m m').phase = o.phase := by
  unfold DiedPlace.remapped
  split
  · split_ifs <;> rfl
  · rfl

namespace Threads

variable {τ : Type*}

/-- The room of the registered pids. -/
def room (s : Threads τ) : Room (Option τ) Pid where
  inside := {pid | pid ∈ s.daemon.pidsMap}
  lit := SpiPower s.word
  phase w :=
    match w with
    | none => s.off.phase
    | some t => (s.died t).phase

@[simp] theorem room_lit (s : Threads τ) : s.room.lit = SpiPower s.word := rfl

@[simp] theorem room_phase_none (s : Threads τ) : s.room.phase none = s.off.phase := rfl

@[simp] theorem room_phase_some (s : Threads τ) (t : τ) : s.room.phase (some t) = (s.died t).phase := rfl

@[simp] theorem mem_room_inside (s : Threads τ) (pid : Pid) : pid ∈ s.room.inside ↔ pid ∈ s.daemon.pidsMap := Iff.rfl

/-- The room is empty when the map is. -/
theorem room_inside_eq_empty_iff (s : Threads τ) : s.room.inside = ∅ ↔ s.daemon.pidsMap.isEmpty = true := by
  rw [Std.ExtTreeMap.isEmpty_iff, Std.ExtTreeMap.eq_empty_iff_forall_not_mem]
  exact Set.eq_empty_iff_forall_notMem

variable [DecidableEq τ]

/-- The phases after an access of `powerOff`. -/
theorem room_phase_put (s : Threads τ) (r : Release) :
    (s.put r).room.phase = Function.update s.room.phase none r.off.phase := by
  funext w
  cases w with
  | none => rw [Function.update_self]; rfl
  | some t => rw [Function.update_of_ne (by simp)]; rfl

/-- The phases after an access of a notice. -/
theorem room_phase_died {s s' : Threads τ} {t : τ} {o : DiedPlace} (hoff : s'.off = s.off)
    (hdied : s'.died = Function.update s.died t o) : s'.room.phase = Function.update s.room.phase (some t) o.phase := by
  funext w
  cases w with
  | none =>
    rw [Function.update_of_ne (by simp)]
    simp [hoff]
  | some u =>
    by_cases hu : u = t
    · subst hu
      simp [hdied]
    · rw [Function.update_of_ne (by simpa using hu)]
      simp [hdied, hu]

end Threads

/-! ## The accesses of `powerOff` -/

/-- At its entry, `powerOff` has not let its caller out. -/
theorem MapAt.mem_iff {m m' : PidsMap} {pid : Pid} {o : OffPlace} (h : MapAt m pid o m') (ho : o.AtEntry) (p : Pid) :
    p ∈ m' ↔ p ∈ m := by
  have hinsert : ∀ d e, m[pid]? = some d → (p ∈ m.insert pid e ↔ p ∈ m) := by
    intro d e hd
    rw [Std.ExtTreeMap.mem_insert, Std.LawfulEqOrd.compare_eq_iff_eq]
    refine ⟨fun hp => hp.elim (fun he => ?_) id, Or.inr⟩
    rw [← he, Std.ExtTreeMap.mem_iff_isSome_getElem?, hd]
    rfl
  cases o with
  | testCb => rw [h.1]
  | testNotifier => rw [h.1]
  | unlink => rw [h.1]
  | unlinkNotifier cb => rw [h.1.1]
  | unlinkCall cb n => rw [h.1.1]
  | countDown => rw [h.1]
  | testCount =>
    obtain ⟨d, hd, rfl⟩ := h
    exact hinsert d _ hd
  | log =>
    obtain ⟨d, hd, rfl, -⟩ := h
    exact hinsert d _ hd
  | erase =>
    obtain ⟨d, hd, rfl, -⟩ := h
    exact hinsert d _ hd
  | _ => exact ho.elim

theorem OffPlace.AtEntry.phase {o : OffPlace} (h : o.AtEntry) : o.phase = .idle ∧ o ≠ .close := by
  cases o with
  | testEmpty => exact h.elim
  | switchOff => exact h.elim
  | close => exact h.elim
  | _ => exact ⟨rfl, by simp⟩

/-- The status word, the node and the place of `powerOff` fit together. -/
structure PowerFits (word : BitVec 32) (nqNode : Int) (off : OffPlace) : Prop where
  idle : NoConflict word
  node : nqNode < 0 → ¬SpiPower word
  closing : off = .close → ¬SpiPower word

/-- Other places fit as well, with the same word and node. -/
theorem PowerFits.move {word : BitVec 32} {nqNode : Int} {off off' : OffPlace} (h : PowerFits word nqNode off)
    (hoff : off' ≠ .close) : PowerFits word nqNode off' :=
  ⟨h.idle, h.node, fun hc => absurd hc hoff⟩

/-- After a power-off every node and place fits. -/
theorem PowerFits.switchedOff {word : BitVec 32} {nqNode : Int} {off : OffPlace} (h : PowerFits word nqNode off)
    (nqNode' : Int) (off' : OffPlace) : PowerFits (word &&& ~~~p61StateSpi) nqNode' off' :=
  ⟨h.idle.clear, fun _ => not_spiPower_clear word, fun _ => not_spiPower_clear word⟩

variable {τ : Type*} [DecidableEq τ] {mPid : τ → Pid}

/-- An access of `powerOff` that leaves the pids, the power and the phase of `powerOff` leaves the room. -/
theorem Threads.room_put_same {s : Threads τ} {r : Release} (hm : ∀ p, p ∈ r.daemon.pidsMap ↔ p ∈ s.daemon.pidsMap)
    (hw : r.word = s.word) (hoff : r.off.phase = s.off.phase) : (s.put r).room = s.room.after .pass := by
  refine Room.ext (Set.ext hm) ?_ ?_
  · rw [Threads.room_lit]
    exact congrArg SpiPower hw
  · rw [Threads.room_phase_put, hoff]
    exact Function.update_eq_self none s.room.phase

/-- A step is allowed to the workers of the room, and leaves the word, the node and the place of `powerOff` fitting together. -/
structure Threads.Acts (s s' : Threads τ) : Prop where
  room : ∃ act, s.room.Allowed act ∧ s'.room = s.room.after act
  fits : PowerFits s'.word s'.daemon.nqNode s'.off

/-- Two successive states of `powerOff` at its entry. -/
theorem powerOff_acts_entry {s : Threads τ} {m : PidsMap} {c : Releasers} (hmap : MapAt m c.pid s.off s.daemon.pidsMap)
    (hfits : PowerFits s.word s.daemon.nqNode s.off) (ho : s.off.AtEntry) :
    s.Acts (s.put ((s.release .done).powerOff c)) := by
  have hbefore := hmap.mem_iff ho
  have hafter := mapAt_powerOff (r := s.release .done) hmap
  obtain ⟨hword, hnode⟩ := powerOff_leaves c (r := s.release .done)
    ⟨fun hn => by simp [show s.off = _ from hn] at ho, fun hn => by simp [show s.off = _ from hn] at ho⟩
  have hmove : (Release.powerOff c (s.release .done)).off ≠ .close →
      PowerFits (Release.powerOff c (s.release .done)).word (Release.powerOff c (s.release .done)).daemon.nqNode
        (Release.powerOff c (s.release .done)).off := by
    intro hclose
    rw [hword, hnode]
    exact hfits.move hclose
  rcases next_atEntry c (r := s.release .done) ho with hnext | hnext | ⟨hlog, hnext⟩ | hnext
  · refine ⟨⟨.pass, trivial, Threads.room_put_same (fun p => ?_) hword ?_⟩, hmove hnext.phase.2⟩
    · rw [hafter.mem_iff hnext, ← hbefore]
    · rw [hnext.phase.1, ho.phase.1]
  · -- the caller has been erased
    refine ⟨⟨.letOut none c.pid, ho.phase.1, Room.ext (Set.ext fun p => ?_) ?_ ?_⟩, hmove (by simp [hnext])⟩
    · rw [hnext] at hafter
      obtain ⟨d, -, hm', -⟩ := hafter
      show p ∈ (Release.powerOff c (s.release .done)).daemon.pidsMap ↔ p ∈ s.daemon.pidsMap ∧ p ≠ c.pid
      rw [hm', Std.ExtTreeMap.mem_erase, hbefore, and_comm, Ne, Std.LawfulEqOrd.compare_eq_iff_eq, eq_comm]
    · exact congrArg SpiPower hword
    · rw [Threads.room_phase_put, hnext]
      rfl
  · refine ⟨⟨.pass, trivial, Threads.room_put_same (fun p => ?_) hword ?_⟩, hmove (by simp [hnext])⟩
    · rw [show s.off = .log from hlog] at hmap
      obtain ⟨d, -, hm', -⟩ := hmap
      have hindex : PidsMap.index (m.insert c.pid d.down) c.pid = (d.down, m.insert c.pid d.down) := index_of_some (by simp)
      simp [Release.powerOff, Release.withMap, show s.off = .log from hlog, hm', hindex]
    · rw [hnext, ho.phase.1]
      rfl
  · rw [hnext] at hafter
    exact hafter.elim

/-- An access of `powerOff` that does not go to the entry of its caller. -/
theorem powerOff_acts_tail {s : Threads τ} {c : Releasers} (ha : c.answers.Succeeds)
    (hfits : PowerFits s.word s.daemon.nqNode s.off) (ho : ¬s.off.AtEntry) (hwalk : s.off ≠ .walk .dangling) :
    s.Acts (s.put ((s.release .done).powerOff c)) := by
  cases hoff : s.off with
  | count =>
    simp only [Release.powerOff, Threads.release_off, hoff]
    refine ⟨⟨.pass, trivial, Threads.room_put_same (fun p => Iff.rfl) rfl ?_⟩, hfits.move ?_⟩
    · rw [hoff]
      dsimp only
      split_ifs <;> rfl
    · split_ifs <;> simp
  | testEmpty =>
    refine ⟨⟨.look none, by simp [Room.Allowed, hoff], Room.ext ?_ ?_ ?_⟩, ?_⟩
    · simp [Release.powerOff, hoff, Threads.room, Room.after]
    · simp [Release.powerOff, hoff, Threads.room, Room.after]
    · rw [Threads.room_phase_put]
      have hempty := s.room_inside_eq_empty_iff
      cases hm : s.daemon.pidsMap.isEmpty with
      | false => simp [Release.powerOff, hoff, Room.after, hempty, hm]
      | true => simp [Release.powerOff, hoff, Room.after, hempty, hm]
    · simp only [Release.powerOff, Threads.release_off, hoff]
      exact hfits.move (by split_ifs <;> simp)
  | walk it =>
    rw [powerOff_walk c (r := s.release .done) hoff fun hit => hwalk (by rw [hoff, hit]), Threads.release_daemon]
    refine ⟨⟨.pass, trivial, Threads.room_put_same (fun p => Iff.rfl) rfl ?_⟩, hfits.move ?_⟩
    · rw [hoff]
      cases it.next s.daemon.pidsMap <;> rfl
    · cases it.next s.daemon.pidsMap <;> simp
  | switchOff =>
    have hidle : has (eseCurrentState { c.answers with word := s.word }) p61StateDwnld = false := by
      simp [eseCurrentState, Int.not_lt.2 ha.status, hfits.idle.2]
    by_cases hn : s.daemon.nqNode < 0
    · have hstep : (s.release .done).powerOff c = { s.release .done with off := .returned 0 } := by
        simp only [Release.powerOff, Threads.release_off, hoff, Threads.release_daemon, hn, if_true]
      rw [hstep]
      refine ⟨⟨.turnOff none, by simp [Room.Allowed, hoff], Room.ext rfl ?_ ?_⟩, hfits.move (by simp)⟩
      · exact propext (iff_of_false (hfits.node hn) id)
      · rw [Threads.room_phase_put]
        rfl
    · have hstep : (s.release .done).powerOff c =
          { s.release .done with word := s.word &&& ~~~p61StateSpi, off := .close } := by
        simp only [Release.powerOff, Threads.release_off, Threads.release_word, Threads.release_daemon, hoff, hn, hidle,
          Int.not_lt.2 ha.pwrOff, if_false, Bool.false_eq_true, wordAfter_off s.daemon.nqNode ha.pwrOff]
      rw [hstep]
      refine ⟨⟨.turnOff none, by simp [Room.Allowed, hoff], Room.ext rfl ?_ ?_⟩, hfits.switchedOff _ _⟩
      · exact propext (iff_of_false (not_spiPower_clear s.word) id)
      · rw [Threads.room_phase_put]
        rfl
  | close =>
    have hstep : (s.release .done).powerOff c =
        { s.release .done with daemon := (closeNode s.daemon c.answers).1, off := .returned 0 } := by
      simp only [Release.powerOff, Threads.release_off, hoff, Threads.release_daemon]
    rw [hstep, closeNode_eq]
    refine ⟨⟨.pass, trivial, Threads.room_put_same (fun p => Iff.rfl) rfl (by rw [hoff]; rfl)⟩, ?_⟩
    exact ⟨hfits.idle, fun _ => hfits.closing hoff, by simp⟩
  | returned ret =>
    have hstep : (s.release .done).powerOff c = s.release .done := by simp only [Release.powerOff, Threads.release_off, hoff]
    rw [hstep]
    exact ⟨⟨.pass, trivial, rfl⟩, hfits⟩
  | crashed =>
    have hstep : (s.release .done).powerOff c = s.release .done := by simp only [Release.powerOff, Threads.release_off, hoff]
    rw [hstep]
    exact ⟨⟨.pass, trivial, rfl⟩, hfits⟩
  | _ =>
    rw [hoff] at ho
    exact absurd trivial ho

/-! ## The accesses of a notice -/

/-- What an access of a notice does, with what `Release.binderDied` has left. -/
def Threads.noticed (s : Threads τ) (t : τ) (r : Release) : Threads τ :=
  { s.put r with died := Function.update s.died t r.died }

/-- An access of a notice that does not doom the `powerOff` underway. -/
theorem notice_acts {s : Threads τ} {c : Releasers} (ha : c.answers.Succeeds)
    (hfits : PowerFits s.word s.daemon.nqNode s.off) (hcrash : s.off ≠ .crashed) {t : τ} (hpid : c.mPid = mPid t)
    (hwalk : s.died t ≠ .walk .dangling) (hdoom : ¬Dooms c (s.release (s.died t)) .binderDied) :
    s.Acts (s.noticed t ((s.release (s.died t)).binderDied c)) := by
  have hphase : ∀ {r : Release}, r.off = s.off →
      (s.noticed t r).room.phase = Function.update s.room.phase (some t) r.died.phase :=
    fun hoff => Threads.room_phase_died hoff rfl
  cases hdied : s.died t with
  | erase =>
    rw [hdied] at hdoom
    rw [binderDied_erase (r := s.release .erase) hcrash rfl hdoom]
    refine ⟨⟨.letOut (some t) (mPid t), by simp [Room.Allowed, hdied], Room.ext (Set.ext fun p => ?_) rfl (hphase rfl)⟩, hfits⟩
    show p ∈ s.daemon.pidsMap.erase c.mPid ↔ p ∈ s.daemon.pidsMap ∧ p ≠ mPid t
    rw [hpid, Std.ExtTreeMap.mem_erase, and_comm, Ne, Std.LawfulEqOrd.compare_eq_iff_eq, eq_comm]
  | testEmpty =>
    have hempty := s.room_inside_eq_empty_iff
    cases hm : s.daemon.pidsMap.isEmpty with
    | false =>
      have hstep : (s.release .testEmpty).binderDied c = { s.release .testEmpty with died := .walk .begin } := by
        simp [Release.binderDied, hcrash, hm]
      rw [hstep]
      refine ⟨⟨.look (some t), by simp [Room.Allowed, hdied], Room.ext rfl rfl ?_⟩, hfits⟩
      rw [hphase rfl]
      simp [Room.after, hempty, hm]
    | true =>
      have hstep : (s.release .testEmpty).binderDied c = { s.release .testEmpty with died := .testNode } := by
        simp [Release.binderDied, hcrash, hm]
      rw [hstep]
      refine ⟨⟨.look (some t), by simp [Room.Allowed, hdied], Room.ext rfl rfl ?_⟩, hfits⟩
      rw [hphase rfl]
      simp [Room.after, hempty, hm]
  | walk it =>
    rw [binderDied_walk c (r := s.release (.walk it)) hcrash rfl fun hit => hwalk (by rw [hdied, hit])]
    refine ⟨⟨.pass, trivial, Room.ext rfl rfl ?_⟩, hfits⟩
    rw [hphase rfl]
    refine Function.update_eq_self_iff.2 ?_
    rw [Threads.room_phase_some, hdied, Threads.release_daemon]
    cases it.next s.daemon.pidsMap <;> rfl
  | testNode =>
    by_cases hn : s.daemon.nqNode < 0
    · have hstep : (s.release .testNode).binderDied c = { s.release .testNode with died := .done } := by
        simp [Release.binderDied, hcrash, hn]
      rw [hstep]
      refine ⟨⟨.turnOff (some t), by simp [Room.Allowed, hdied], Room.ext rfl ?_ (hphase rfl)⟩, hfits⟩
      exact propext (iff_of_false (hfits.node hn) id)
    · have hstep : (s.release .testNode).binderDied c = { s.release .testNode with died := .switchOff } := by
        simp [Release.binderDied, hcrash, hn]
      rw [hstep]
      refine ⟨⟨.pass, trivial, Room.ext rfl rfl ?_⟩, hfits⟩
      rw [hphase rfl]
      exact Function.update_eq_self_iff.2 (by simp [hdied])
  | switchOff =>
    by_cases hn : s.daemon.nqNode < 0
    · have hstep : (s.release .switchOff).binderDied c = { s.release .switchOff with died := .done } := by
        simp [Release.binderDied, hcrash, hn]
      rw [hstep]
      refine ⟨⟨.turnOff (some t), by simp [Room.Allowed, hdied], Room.ext rfl ?_ (hphase rfl)⟩, hfits⟩
      exact propext (iff_of_false (hfits.node hn) id)
    · have hstep : (s.release .switchOff).binderDied c =
          { s.release .switchOff with word := s.word &&& ~~~p61StateSpi, died := .done } := by
        simp [Release.binderDied, hcrash, hn, wordAfter_off s.daemon.nqNode ha.pwrOff]
      rw [hstep]
      refine ⟨⟨.turnOff (some t), by simp [Room.Allowed, hdied], Room.ext rfl ?_ (hphase rfl)⟩, hfits.switchedOff _ _⟩
      exact propext (iff_of_false (not_spiPower_clear s.word) id)
  | done =>
    have hstep : (s.release .done).binderDied c = s.release .done := by simp [Release.binderDied, hcrash]
    rw [hstep]
    refine ⟨⟨.pass, trivial, Room.ext rfl rfl ?_⟩, hfits⟩
    rw [hphase rfl]
    exact Function.update_eq_self_iff.2 (by simp [hdied])

/-! ## The other requests -/

/-- What a request other than `powerOff` leaves of the map and the power, when all calls succeed. -/
inductive CallExit (r : Request) (s s' : State) (word word' : BitVec 32) : Prop where
  | kept (hm : s'.pidsMap = s.pidsMap) (hw : SpiPower word' ↔ SpiPower word)
  | entered (pid : Pid) (data : ServiceData) (hr : ∃ uid notifier, r = .powerOn uid pid notifier)
      (hm : s'.pidsMap = s.pidsMap.addHold pid data) (hw : SpiPower word')
  | cleared (hr : (∃ uid, r = .killall uid ∧ uidAllowed uid = true) ∨ s.pidsMap.isEmpty = true)
      (hm : s'.pidsMap.isEmpty = true) (hw : ¬SpiPower word')

/-- The request has been served. -/
structure Served (r : Request) (s : State) (word : BitVec 32) (o : Outcome) : Prop where
  exit : CallExit r s o.state word (wordAfterAll word o.calls)
  idle : NoConflict (wordAfterAll word o.calls)
  node : o.state.nqNode < 0 → ¬SpiPower (wordAfterAll word o.calls)

/-- A request that leaves the map and the power, and does not close the node. -/
theorem Served.quiet {r : Request} {s : State} {word : BitVec 32} {off : OffPlace} (hfits : PowerFits word s.nqNode off) {o : Outcome}
    (hm : o.state.pidsMap = s.pidsMap) (hq : Quiet o.calls) (hn : o.state.nqNode < 0 → s.nqNode < 0) : Served r s word o := by
  have hword := wordAfterAll_of_quiet hq word
  refine ⟨.kept hm (by rw [hword]), ?_, fun hneg => ?_⟩
  · rw [hword]
    exact hfits.idle
  · rw [hword]
    exact hfits.node (hn hneg)

/-- A request that leaves the plant in order, with nobody registered. -/
theorem Served.cleared {r : Request} {s : State} {word : BitVec 32} {o : Outcome}
    (hr : (∃ uid, r = .killall uid ∧ uidAllowed uid = true) ∨ s.pidsMap.isEmpty = true)
    (h : PlantInv o.state (wordAfterAll word o.calls)) (he : o.state.pidsMap.isEmpty = true) : Served r s word o := by
  have hoff : ¬SpiPower (wordAfterAll word o.calls) := by
    rw [h.power, he]
    simp
  exact ⟨.cleared hr he hoff, h.idle, fun _ => hoff⟩

/-- In order, but for power that is owed to nobody. -/
theorem plantInv_or_owed {s : State} {word : BitVec 32} {off : OffPlace} (hfits : PowerFits word s.nqNode off)
    (hdark : ¬SpiPower word → s.pidsMap.isEmpty = true) :
    PlantInv s word ∨ (SpiPower word ∧ s.pidsMap.isEmpty = true) := by
  by_cases hp : SpiPower word
  · cases he : s.pidsMap.isEmpty with
    | true => exact Or.inr ⟨hp, rfl⟩
    | false =>
      refine Or.inl (.of_on hfits.idle hp he ?_)
      by_contra hn
      exact hfits.node (Int.not_le.1 hn) hp
  · have he := hdark hp
    refine Or.inl ⟨iff_of_false hp (by simp [he]), hfits.idle, fun hne => ?_⟩
    rw [he] at hne
    cases hne

/-- `powerOn` while the eSE is still on though nobody is registered. -/
theorem powerOn_owed {s : State} {word : BitVec 32} {off : OffPlace} (hfits : PowerFits word s.nqNode off) (hp : SpiPower word)
    (he : s.pidsMap.isEmpty = true) {a : Answers} (ha : a.Succeeds) (hw : a.word = word) (uid : Int) (pid : Pid)
    (notifier : Option Binder) : Served (.powerOn uid pid notifier) s word (powerOn s uid pid notifier a) := by
  have hnode := nodeAfterOpen_nonneg (s := s) ha
  by_cases hadm : Admitted s uid a
  · have heq := powerOn_admitted hadm pid notifier
    have hq := admittedCalls_quiet s a
    have hexit := powerOnNode_exit (admittedState s a) pid notifier a
    have hon : has word (p61StateSpi ||| p61StateSpiPrio) = true := by
      rw [has_or, show has word p61StateSpi = true from hp, Bool.true_or]
    have hdone : ∀ {o : Outcome}, Served (.powerOn uid pid notifier) s word o →
        Served (.powerOn uid pid notifier) s word (o.after (askedCalls s a ++ openedCalls s a)) := by
      intro o ho
      have hword : wordAfterAll word (o.after (askedCalls s a ++ openedCalls s a)).calls = wordAfterAll word o.calls := by
        rw [Outcome.after_calls, wordAfterAll_quiet_append hq]
      exact ⟨by rw [hword]; exact ho.exit, by rw [hword]; exact ho.idle, by rw [hword]; exact ho.node⟩
    rw [heq]
    refine hdone ?_
    generalize powerOnNode (admittedState s a) pid notifier a = o at hexit
    cases hexit with
    | statusFailed hst => exact absurd hst (Int.not_lt.2 ha.status)
    | switchFailed _ ret switched hs =>
      rw [hw] at hs
      cases hs with
      | downloading hoff => rw [hon] at hoff; cases hoff
      | schemeFailed hoff => rw [hon] at hoff; cases hoff
      | powerFailed hoff => rw [hon] at hoff; cases hoff
    | on _ switched hs o hr =>
      rw [hw] at hs
      have hswitched : switched = [] := by
        cases hs with
        | alreadyOn => rfl
        | switched hoff => rw [hon] at hoff; cases hoff
      subst hswitched
      cases hr with
      | shared _ hne =>
        rw [show (admittedState s a).pidsMap.isEmpty = s.pidsMap.isEmpty from rfl, he] at hne
        cases hne
      | undoFailed _ _ hr => exact absurd hr (Int.not_lt.2 ha.pwrOff)
      | undone _ _ hr node hnode' =>
        refine .cleared (Or.inr he) ?_ he
        have hword : wordAfterAll word (statusCall (admittedState s a) a ::
            [.ioctl (admittedState s a).nqNode (.setSpmPwr 0) a.pwrOffRet, .closeNode (admittedState s a).nqNode a.closeRet]) =
            word &&& ~~~p61StateSpi := wordAfter_off (admittedState s a).nqNode hr word
        show PlantInv _ (wordAfterAll word (statusCall (admittedState s a) a ::
            [.ioctl (admittedState s a).nqNode (.setSpmPwr 0) a.pwrOffRet, .closeNode (admittedState s a).nqNode a.closeRet]))
        rw [hword]
        exact .of_off hfits.idle he
      | linkFailed _ _ hl => exact absurd ha.links hl
      | registered cb _ _ =>
        exact ⟨.entered pid _ ⟨uid, notifier, rfl⟩ rfl hp, hfits.idle, fun hneg => absurd hneg (Int.not_lt.2 hnode)⟩
  · obtain ⟨-, hq, hst⟩ := powerOn_refused hadm pid notifier
    rcases hst with hst | hst
    · exact .quiet hfits (by rw [hst]) hq (by rw [hst]; exact id)
    · exact .quiet hfits (by rw [hst]) hq (by rw [hst]; exact fun hneg => absurd hneg (Int.not_lt.2 hnode))

/-- `powerOn`, when all calls succeed. -/
theorem powerOn_served {s : State} {word : BitVec 32} {off : OffPlace} (hfits : PowerFits word s.nqNode off)
    (hdark : ¬SpiPower word → s.pidsMap.isEmpty = true) {a : Answers} (ha : a.Succeeds) (hw : a.word = word) (uid : Int)
    (pid : Pid) (notifier : Option Binder) : Served (.powerOn uid pid notifier) s word (powerOn s uid pid notifier a) := by
  rcases plantInv_or_owed hfits hdark with hinv | ⟨hp, he⟩
  · have hafter := plantInv_powerOn hinv ha hw uid pid notifier
    refine ⟨?_, hafter.idle, fun hneg => ?_⟩
    · rcases powerOn_cases s uid pid notifier a with ⟨-, hsame⟩ | ⟨-, -, cb, -, -, hst⟩
      · refine .kept hsame.pidsMap ?_
        rw [hafter.power, hinv.power, hsame.pidsMap]
      · refine .entered pid _ ⟨uid, notifier, rfl⟩ (by rw [hst]; rfl) (hafter.power.2 ?_)
        rw [hst]
        exact addHold_isEmpty _ _ _
    · rw [hafter.power]
      exact fun hne => absurd (hafter.node hne) (Int.not_le.2 hneg)
  · exact powerOn_owed hfits hp he ha hw uid pid notifier

/-- The requests other than `powerOff`, when all calls succeed. -/
theorem handle_served {s : State} {word : BitVec 32} {off : OffPlace} (hfits : PowerFits word s.nqNode off)
    (hdark : ¬SpiPower word → s.pidsMap.isEmpty = true) {a : Answers} (ha : a.Succeeds) (hw : a.word = word) {r : Request}
    (hr : ∀ uid pid, r ≠ .powerOff uid pid) (hn : ∀ pid, r ≠ .binderDied pid) : Served r s word (handle s r a) := by
  cases r with
  | powerOn uid pid notifier => exact powerOn_served hfits hdark ha hw uid pid notifier
  | powerOff uid pid => exact absurd rfl (hr uid pid)
  | getState =>
    obtain ⟨hst, -⟩ := getState_eq s a
    have hnode := nodeAfterOpen_nonneg (s := s) ha
    refine .quiet hfits (by rw [handle_getState, hst]) (getState_quiet s a) ?_
    rw [handle_getState, hst]
    exact fun hneg => absurd hneg (Int.not_lt.2 hnode)
  | killall uid =>
    have hexit := killall_exit s uid a
    rw [handle_killall]
    generalize killall s uid a = o at hexit
    cases hexit with
    | refused => exact .quiet hfits rfl (by simp [Quiet]) id
    | notOpened _ _ _ hneg => exact absurd hneg (Int.not_lt.2 (nodeAfterOpen_nonneg ha))
    | opened hu unlinked hc _ o ho =>
      have hq : Quiet (unlinked ++ openedCalls s a) := hc.quiet.append (openedCalls_quiet s a)
      have hempty : o.state.pidsMap.isEmpty = true := by
        rw [(sameClients_switchOff ho).pidsMap]
        exact Std.ExtTreeMap.isEmpty_empty
      refine .cleared (Or.inl ⟨uid, rfl, hu⟩) ?_ hempty
      rw [Outcome.after_state, Outcome.after_calls, wordAfterAll_quiet_append hq]
      exact (plantInv_switchOff hfits.idle Std.ExtTreeMap.isEmpty_empty ha hw ho).2
  | geteSEBindingStatus => exact .quiet hfits rfl (by simp [Quiet, handle, Call.isPower]) id
  | binderDied mPid => exact absurd rfl (hn mPid)

end EseManager
