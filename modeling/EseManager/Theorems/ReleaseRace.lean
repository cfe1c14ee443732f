import EseManager.Lemmas.ReleaseRace
import EseManager.Theorems.RefCount

/-!
# A release and a death notice, access by access

A client that dies while its `powerOff` is handled is erased under the hands of the handler. For different pids nothing can go wrong.
For the same pid it depends on where the erasure catches `powerOff`.
-/

namespace EseManager

theorem Unraced.start {c : Releasers} {s : State} {word : BitVec 32} (h : PlantInv s word) :
    Unraced c s.pidsMap (.start s word) := by
  refine ⟨rfl, ⟨h.idle.2, fun hp => ?_, fun hn hp => ?_, by simp [Release.start], by simp [Release.start], ?_,
    fun _ _ => Or.inr trivial⟩, by simp [Release.start]⟩
  · by_contra he
    exact hp (h.power.2 (by simpa [Release.start] using he))
  · exact absurd (h.node (h.power.1 hp)) (Int.not_le.2 hn)
  · rintro (hd | hd)
    · cases hd
    · cases hd

/-- No erasure of the run dooms the other handler. -/
def Undoomed (c : Releasers) : Release → List Turn → Prop := (release c).Along fun r turn => ¬Dooms c r turn

/-- With different pids. -/
theorem undisturbed_run {c : Releasers} (ha : c.answers.Succeeds) (hne : c.mPid ≠ c.pid) {m : PidsMap} {r : Release}
    (h : r.died = .erase ∧ Unraced c m r ∨ r.died ≠ .erase ∧ Unraced c (m.erase c.mPid) r) {turns : List Turn}
    (hdoom : Undoomed c r turns) :
    let r' := (release c).run r turns
    r'.died = .erase ∧ Unraced c m r' ∨ r'.died ≠ .erase ∧ Unraced c (m.erase c.mPid) r' := by
  refine Machine.run_inv (I := fun r => r.died = .erase ∧ Unraced c m r ∨
    r.died ≠ .erase ∧ Unraced c (m.erase c.mPid) r) (fun r turn h hdoom => ?_) h hdoom
  cases turn with
  | powerOff =>
    rw [release_next_powerOff, powerOff_died_of_not_dooms hdoom]
    exact h.imp (And.imp_right (Unraced.powerOff ha hdoom)) (And.imp_right (Unraced.powerOff ha hdoom))
  | binderDied =>
    rw [release_next_binderDied]
    right
    rcases h with ⟨hd, h⟩ | ⟨hd, h⟩
    · refine ⟨?_, h.erased hne hd hdoom⟩
      rw [binderDied_erase h.map.not_crashed hd hdoom]
      simp
    · exact ⟨(binderDied_leaves c hd h.steady).2.1, h.died ha hd⟩

/-- Until `binderDied` has its first turn. -/
theorem undisturbed_run_powerOff {c : Releasers} (ha : c.answers.Succeeds) {m : PidsMap} {r : Release} (hd : r.died = .erase)
    (h : Unraced c m r) {turns : List Turn} (hturns : .binderDied ∉ turns) :
    ((release c).run r turns).died = .erase ∧ Unraced c m ((release c).run r turns) := by
  refine Machine.run_inv (P := fun _ turn => turn = .powerOff) (I := fun r => r.died = .erase ∧ Unraced c m r)
    (fun r turn h hturn => ?_) ⟨hd, h⟩ ((release c).along_of_forall_mem (fun turn hm _ => ?_) r)
  · subst hturn
    -- the iterator of `binderDied` is not made yet
    have hdoom : ¬Dooms c r .powerOff := fun hdoom => by
      have hwalk := hdoom.2
      rw [h.1] at hwalk
      cases hwalk
    rw [release_next_powerOff, powerOff_died_of_not_dooms hdoom]
    exact ⟨h.1, h.2.powerOff ha hdoom⟩
  · cases turn with
    | powerOff => rfl
    | binderDied => exact absurd hm hturns

/-- With the same pid, from its erasure on. -/
theorem erased_run {c : Releasers} (ha : c.answers.Succeeds) {m : PidsMap} (hnone : m[c.pid]? = none) {place : OffPlace}
    {r : Release} (h : Erased c m place r) {turns : List Turn} (hdoom : Undoomed c r turns) :
    Erased c m place ((release c).run r turns) := by
  refine Machine.run_inv (I := Erased c m place) (fun r turn h hdoom => ?_) h hdoom
  cases turn with
  | powerOff => exact h.powerOff ha hnone hdoom
  | binderDied => exact h.binderDied ha

/-- The first turn of `binderDied` erases the pid. -/
theorem Unraced.caught {c : Releasers} (heq : c.mPid = c.pid) {m : PidsMap} {r : Release} (h : Unraced c m r)
    (hd : r.died = .erase) (hdoom : ¬Dooms c r .binderDied) : Erased c (m.erase c.pid) r.off (r.binderDied c) := by
  have hunlink : r.off ≠ .unlink := fun hoff => hdoom ⟨hd, Or.inr ⟨heq, Or.inl hoff⟩⟩
  have hm := h.map.erase_eq
  rw [binderDied_erase h.map.not_crashed hd hdoom, heq]
  refine ⟨h.map.caught hunlink, Or.inl, fun _ => ?_, by simp, by simp⟩
  have hmono : r.daemon.pidsMap.isEmpty = true → (m.erase c.pid).isEmpty = true := fun he => hm ▸ isEmpty_erase he c.pid
  refine ⟨h.power.idle, fun hp => hmono (h.power.on hp), h.power.node, fun ho => hmono (h.power.off ho), h.power.closing, ?_,
    fun _ _ => Or.inr trivial⟩
  rintro (hdied | hdied)
  · cases hdied
  · cases hdied

/-- At the end the eSE has power exactly while somebody is registered. -/
theorem PowerAt.settled {empty : Bool} {r : Release} (h : PowerAt empty r) (hoff : ¬r.off.Pending) (hdied : r.died = .done) :
    SpiPower r.word ↔ empty = false := by
  constructor
  · intro hp
    cases empty with
    | false => rfl
    | true =>
      have howed := (h.owed rfl hp).resolve_left hoff
      rw [hdied] at howed
      exact howed.elim
  · intro he
    by_contra hp
    rw [h.on hp] at he
    cases he

/-- What a handled `powerOff` leaves of the map. -/
theorem powerOff_dropHold (s : State) {uid : Int} (hu : uidAllowed uid = true) (pid : Pid) (a : Answers) :
    (powerOff s uid pid a).state.pidsMap = s.pidsMap.dropHold pid := by
  have hexit := powerOff_exit s uid pid a
  generalize powerOff s uid pid a = o at hexit
  unfold PidsMap.dropHold
  cases hexit with
  | refused hu' =>
    rw [hu] at hu'
    cases hu'
  | unregistered _ hm => simp [hm]
  | kept _ d hm hc => simp [hm, ServiceData.down, hc, countedDown]
  | shared _ d hm hc => simp [hm, ServiceData.down, hc, released]
  | closed _ d hm hc => simp [hm, ServiceData.down, hc, released]
  | last _ d hm hc _ _ o ho =>
    cases ho <;> simp [hm, ServiceData.down, hc, released]

/-- How both handlers end after the erasure. -/
theorem Erased.through {c : Releasers} {m : PidsMap} {place : OffPlace} {r : Release} (h : Erased c m place r)
    (ht : r.Through) :
    (place = .log → r.daemon.pidsMap = m.insert c.pid .empty) ∧
      (place ≠ .log → r.daemon.pidsMap = m ∧ (SpiPower r.word ↔ m.isEmpty = false)) := by
  have hmap := h.map
  obtain ⟨⟨ret, hret⟩, hdone⟩ := ht.resolve_left hmap.not_crashed
  rw [hret] at hmap
  have hpending : ¬r.off.Pending := by
    rw [hret]
    exact id
  exact ⟨fun hlog => (if_pos hlog).mp hmap, fun hlog => ⟨(if_neg hlog).mp hmap, (h.power hlog).settled hpending hdone⟩⟩

/-- The turns of `powerOff` before the first one of `binderDied`. -/
def beforeErasure (turns : List Turn) : List Turn := turns.takeWhile (· = .powerOff)

/-- In this order of turns `binderDied` erases the caller of `powerOff` while `powerOff` is at this place. -/
def ErasedAt (c : Releasers) (s : State) (word : BitVec 32) (turns : List Turn) (place : OffPlace) : Prop :=
  c.mPid = c.pid ∧ .binderDied ∈ turns ∧ ((release c).run (.start s word) (beforeErasure turns)).off = place

theorem notMem_beforeErasure (turns : List Turn) : .binderDied ∉ beforeErasure turns := by
  intro hm
  have hall := List.all_takeWhile (l := turns) (p := fun turn => decide (turn = .powerOff))
  simpa using List.all_eq_true.1 hall _ hm

/-- Behind them is a turn of `binderDied`, if there is one. -/
theorem exists_erasure {turns : List Turn} (h : .binderDied ∈ turns) :
    ∃ post, turns = beforeErasure turns ++ .binderDied :: post := by
  induction turns with
  | nil => cases h
  | cons turn turns ih =>
    cases turn with
    | powerOff =>
      obtain ⟨post, hpost⟩ := ih (by simpa using h)
      refine ⟨post, ?_⟩
      have hcons : beforeErasure (.powerOff :: turns) = .powerOff :: beforeErasure turns := by simp [beforeErasure]
      rw [hcons, List.cons_append, ← hpost]
    | binderDied => exact ⟨turns, by simp [beforeErasure]⟩

/-- The map is what the two handlers leave one after the other, and the eSE has power exactly while somebody is registered. -/
def EndsWell (c : Releasers) (s : State) (uid : Int) (r : Release) : Prop :=
  r.daemon.pidsMap = (powerOff (binderDied s c.mPid c.answers).state uid c.pid c.answers).state.pidsMap ∧
    (SpiPower r.word ↔ r.daemon.pidsMap.isEmpty = false)

/-- Whoever is doomed by a turn of the run has crashed when both are through. -/
theorem crashed_of_dooms {c : Releasers} {r : Release} {turns pre : List Turn} {turn : Turn} (hpre : pre ++ [turn] <+: turns)
    (hdoom : Dooms c ((release c).run r pre) turn) (ht : ((release c).run r turns).Through) :
    ((release c).run r turns).off = .crashed := by
  obtain ⟨post, rfl⟩ := hpre
  refine Release.Doomed.crashed (c := c) ?_ ht
  rw [Machine.run_append, Machine.run_append]
  exact Machine.run_keeps (fun r turn h => h.next turn) hdoom.doomed post

/-- How both handlers end when no erasure dooms the other one. -/
theorem undoomed_ends {c : Releasers} {s : State} {word : BitVec 32} {turns : List Turn} {uid : Int} (hu : uidAllowed uid = true)
    (ha : c.answers.Succeeds) (hinv : PlantInv s word) (hdoom : Undoomed c (.start s word) turns)
    (ht : ((release c).run (.start s word) turns).Through) :
    let r := (release c).run (.start s word) turns
    r.off ≠ .crashed ∧ (EndsWell c s uid r ↔ ¬ErasedAt c s word turns .log) ∧
      (ErasedAt c s word turns .log → r.daemon.pidsMap[c.pid]? = some .empty) := by
  intro r
  have hstart := Unraced.start (c := c) hinv
  have hserial : (powerOff (binderDied s c.mPid c.answers).state uid c.pid c.answers).state.pidsMap =
      PidsMap.dropHold (s.pidsMap.erase c.mPid) c.pid := by
    rw [powerOff_dropHold _ hu, binderDied_eq, State.unregister_pidsMap]
  by_cases heq : c.mPid = c.pid
  · have hnone : (s.pidsMap.erase c.pid)[c.pid]? = none := by simp
    have hdrop : PidsMap.dropHold (s.pidsMap.erase c.mPid) c.pid = s.pidsMap.erase c.pid := by
      rw [heq, PidsMap.dropHold, hnone]
    by_cases hmem : .binderDied ∈ turns
    · obtain ⟨post, hpost⟩ := exists_erasure hmem
      obtain ⟨hd, hpre⟩ := undisturbed_run_powerOff ha rfl hstart (notMem_beforeErasure turns)
      have hr : r = (release c).run ((((release c).run (.start s word) (beforeErasure turns))).binderDied c) post := by
        have hrun := (release c).run_append (.start s word) (beforeErasure turns) (.binderDied :: post)
        rw [← hpost] at hrun
        exact hrun
      unfold Undoomed at hdoom
      rw [hpost, Machine.along_append, Machine.along_cons] at hdoom
      have herased := erased_run ha hnone (hpre.caught heq hd hdoom.2.1) hdoom.2.2
      rw [← hr] at herased
      obtain ⟨hlog, hwell⟩ := herased.through ht
      generalize hplace : ((release c).run (.start s word) (beforeErasure turns)).off = place at hlog hwell
      have hat : ErasedAt c s word turns .log ↔ place = .log := by
        unfold ErasedAt
        rw [hplace]
        simp [heq, hmem]
      refine ⟨herased.map.not_crashed, ?_, fun hl => ?_⟩
      · rw [hat]
        unfold EndsWell
        rw [hserial, hdrop]
        constructor
        · rintro ⟨hm, -⟩ hl
          have hget := congrArg (fun x => x[c.pid]?) ((hlog hl).symm.trans hm)
          simp at hget
        · intro hp
          obtain ⟨hm, hpower⟩ := hwell hp
          rw [hm]
          exact ⟨rfl, hpower⟩
      · rw [hlog (hat.1 hl)]
        simp
    · obtain ⟨hd, h⟩ := undisturbed_run_powerOff ha rfl hstart hmem
      have hdone := (ht.resolve_left h.map.not_crashed).2
      rw [hd] at hdone
      cases hdone
  · have hno : ¬ErasedAt c s word turns .log := fun h => heq h.1
    have hend : Unraced c (s.pidsMap.erase c.mPid) r := by
      rcases undisturbed_run ha heq (Or.inl ⟨rfl, hstart⟩) hdoom with ⟨hd, h⟩ | ⟨-, h⟩
      · have hdone := (ht.resolve_left h.map.not_crashed).2
        rw [hd] at hdone
        cases hdone
      · exact h
    obtain ⟨⟨ret, hret⟩, hdone⟩ := ht.resolve_left hend.map.not_crashed
    have hmap := hend.map
    rw [show r.off = .returned ret from hret] at hmap
    have hpending : ¬r.off.Pending := by
      rw [show r.off = .returned ret from hret]
      exact id
    refine ⟨hend.map.not_crashed, iff_of_true ⟨hmap.trans hserial.symm, ?_⟩ hno, fun hl => absurd hl hno⟩
    exact hend.power.settled hpending hdone

/-- Pid 5 holds the eSE twice. -/
def heldTwiceByFive : State :=
  daemon.run State.init [(.powerOn 1000 5 (some 1), working), (.powerOn 1000 5 (some 2), working)]

/-- Pid 5 dies while it powers off. -/
def fiveDying : Releasers := { mPid := 5, pid := 5, answers := working, lastRef := true }

theorem plantInv_heldTwiceByFive : PlantInv heldTwiceByFive 0x0500#32 :=
  PlantInv.of_on ⟨by decide, by decide⟩ (by decide) (by decide) (by decide)

/-- Pids 5, 6 and 7 hold the eSE. -/
def heldByThree : State :=
  daemon.run State.init [(.powerOn 1000 5 (some 1), working), (.powerOn 1000 6 (some 2), working),
    (.powerOn 1000 7 (some 3), working)]

/-- Pid 6 dies while pid 5 powers off. -/
def sixDying : Releasers := { mPid := 6, pid := 5, answers := working, lastRef := true }

theorem plantInv_heldByThree : PlantInv heldByThree 0x0500#32 :=
  PlantInv.of_on ⟨by decide, by decide⟩ (by decide) (by decide) (by decide)

end EseManager
