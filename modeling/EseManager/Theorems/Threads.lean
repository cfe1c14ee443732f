import EseManager.Lemmas.Threads
import EseManager.Theorems.ReleaseRace
import Mathlib.Data.Fintype.Basic

/-!
# The threads of the daemon keep the reference count

`daemon_refines_holds` is about handlers that run one at a time. With the notices next to a `powerOff` it needs provisos (`Apart`), and
the races of `powerOn` and `powerOff` with a notice say what happens without them. Everything else may come in any order: the notices
among themselves, a release with any number of notices, the other requests, each of them at one go.
-/

namespace EseManager

/-- The map, but for what the `powerOff` that has the mutex has done to it. -/
def Threads.MapOf {τ : Type*} (s : Threads τ) (m : PidsMap) : Prop :=
  if s.off.isReturned = true then s.daemon.pidsMap = m else MapAt m s.pid s.off s.daemon.pidsMap

/-- The holds are those of a map that the `powerOff` underway may have worked on, and the registered pids have power. -/
structure ThreadsInv {τ : Type*} (s : Threads τ) (h : Holds Pid) : Prop where
  map : ∃ m, Tracks ServiceData.count m h ∧ s.MapOf m
  watched : s.room.Watched
  fits : PowerFits s.word s.daemon.nqNode s.off
  steady : ∀ t, s.died t ≠ .walk .dangling

variable {τ : Type*} {s : Threads τ} {h : Holds Pid}

theorem Threads.mapOf_of_returned (hr : s.off.isReturned = true) {m : PidsMap} : s.MapOf m ↔ s.daemon.pidsMap = m := by
  rw [Threads.MapOf, if_pos hr]

theorem Threads.mapOf_of_busy (hr : s.off.isReturned = false) {m : PidsMap} :
    s.MapOf m ↔ MapAt m s.pid s.off s.daemon.pidsMap := by
  rw [Threads.MapOf, if_neg (by simp [hr])]

/-- It does not depend on more of the state. -/
theorem Threads.MapOf.congr {m : PidsMap} (hm : s.MapOf m) {s' : Threads τ} (hpid : s'.pid = s.pid) (hoff : s'.off = s.off)
    (hmap : s'.daemon.pidsMap = s.daemon.pidsMap) : s'.MapOf m := by
  simp only [Threads.MapOf, hpid, hoff, hmap]
  exact hm

/-- The erasure of a pid that the `powerOff` underway does not work on. -/
theorem Threads.MapOf.erase {m : PidsMap} (hm : s.MapOf m) {t : Threads τ} (hpid : t.pid = s.pid) (hoff : t.off = s.off)
    {q : Pid} (hmap : t.daemon.pidsMap = s.daemon.pidsMap.erase q) (hne : s.off.isReturned = false → q ≠ s.pid) :
    t.MapOf (m.erase q) := by
  cases hr : s.off.isReturned with
  | true =>
    rw [Threads.mapOf_of_returned hr] at hm
    rw [Threads.mapOf_of_returned (hoff ▸ hr), hmap, hm]
  | false =>
    rw [Threads.mapOf_of_busy hr] at hm
    rw [Threads.mapOf_of_busy (hoff ▸ hr), hpid, hoff, hmap]
    exact mapAt_erase (hne hr) hm

/-- The daemon has not crashed. -/
theorem ThreadsInv.not_crashed (hi : ThreadsInv s h) : s.off ≠ .crashed := by
  obtain ⟨m, -, hm⟩ := hi.map
  intro hc
  rw [Threads.mapOf_of_busy (by rw [hc]; rfl), hc] at hm
  exact hm

/-- The iterator of `powerOff` is valid. -/
theorem ThreadsInv.walk_valid (hi : ThreadsInv s h) : s.off ≠ .walk .dangling := by
  obtain ⟨m, -, hm⟩ := hi.map
  intro hw
  rw [Threads.mapOf_of_busy (by rw [hw]; rfl), hw] at hm
  exact hm.2 rfl

/-- Without power nobody is registered. -/
theorem ThreadsInv.dark (hi : ThreadsInv s h) (hp : ¬SpiPower s.word) : s.daemon.pidsMap.isEmpty = true :=
  s.room_inside_eq_empty_iff.1 (hi.watched.dark hp)

/-- The map of a release follows the holds. -/
theorem tracks_dropHold {m : PidsMap} (ht : Tracks ServiceData.count m h) (pid : Pid) :
    Tracks ServiceData.count (m.dropHold pid) (h.apply (.release pid)) := by
  have hu : uidAllowed 1000 = true := by decide
  have hclients := powerOff_clients { State.init with pidsMap := m } 1000 pid working
  have hop : holdOp (.powerOff 1000 pid) (powerOff { State.init with pidsMap := m } 1000 pid working).ret = .release pid := by
    simp [holdOp, hu]
  have hafter := tracks_clients ht hclients (by simp [hop])
  rw [hop, powerOff_dropHold _ hu] at hafter
  exact hafter

/-- Entering a pid with a hold. -/
theorem mem_addHold (m : PidsMap) (pid : Pid) (data : ServiceData) (p : Pid) : p ∈ m.addHold pid data ↔ p = pid ∨ p ∈ m := by
  unfold PidsMap.addHold
  split <;> rw [Std.ExtTreeMap.mem_insert, Std.LawfulEqOrd.compare_eq_iff_eq, eq_comm]

/-- The mutex is taken by a `powerOff`. -/
theorem threadsInv_call (hi : ThreadsInv s h) (hr : s.off.isReturned = true) (uid : Int) (pid : Pid) (a : Answers) :
    ThreadsInv (s.accept (.powerOff uid pid) a) (h.apply (s.acceptOp (.powerOff uid pid) a)) := by
  obtain ⟨m, ht, hm⟩ := hi.map
  rw [Threads.mapOf_of_returned hr] at hm
  have haccept : s.accept (.powerOff uid pid) a = if uidAllowed uid = true then { s with pid := pid, off := .count } else s := rfl
  rw [haccept]
  split_ifs
  · have hroom : Threads.room { s with pid := pid, off := .count } = s.room := by
      refine Room.ext rfl rfl (funext fun w => ?_)
      cases w with
      | none =>
        cases hoff : s.off <;> simp [hoff, OffPlace.isReturned] at hr
        simp [hoff]
      | some t => rfl
    refine ⟨⟨m, ht, (Threads.mapOf_of_busy rfl).2 hm⟩, ?_, hi.fits.move (by simp), hi.steady⟩
    rw [hroom]
    exact hi.watched
  · exact hi

/-- From a plant in order, with holds that the map follows. -/
theorem threadsInv_start {s : State} {word : BitVec 32} (hinv : PlantInv s word) (ht : Tracks ServiceData.count s.pidsMap h) :
    ThreadsInv (Threads.start s word : Threads τ) h := by
  have hempty := (Threads.start s word : Threads τ).room_inside_eq_empty_iff
  have hpower : ¬SpiPower word ↔ s.pidsMap.isEmpty = true := by rw [hinv.power, Bool.not_eq_false]
  refine ⟨⟨s.pidsMap, ht, (Threads.mapOf_of_returned rfl).2 rfl⟩, ⟨fun hp => ?_, fun w hw => ?_, fun he hl => ?_⟩,
    ⟨hinv.idle, ?_, ?_⟩, fun t => by simp [Threads.start]⟩
  · exact hempty.2 (hpower.1 hp)
  · cases w <;> cases hw
  · exact absurd hl (hpower.2 (hempty.1 he))
  · intro hneg hp
    exact absurd (hinv.node (hinv.power.1 hp)) (Int.not_le.2 hneg)
  · intro hclose
    cases hclose

/-- With nobody underway the daemon implements the reference count. -/
theorem ThreadsInv.implements (hi : ThreadsInv s h) (hq : s.Quiet) : Implements { daemon := s.daemon, word := s.word } h := by
  obtain ⟨hr, hdied⟩ := hq
  obtain ⟨m, ht, hm⟩ := hi.map
  rw [Threads.mapOf_of_returned hr] at hm
  have hidle : ∀ w, s.room.phase w = .idle := by
    intro w
    cases w with
    | none =>
      cases hoff : s.off <;> simp [hoff, OffPlace.isReturned] at hr
      simp [hoff]
    | some t =>
      rcases hdied t with hd | hd
      · simp [hd]
      · simp [hd]
  have hpower : SpiPower s.word ↔ s.daemon.pidsMap.isEmpty = false := by
    have hlit := hi.watched.lit_iff hidle
    rw [Set.nonempty_iff_ne_empty, Ne, s.room_inside_eq_empty_iff, Bool.not_eq_true] at hlit
    exact hlit
  refine implements_of_inv ⟨hpower, hi.fits.idle, fun hne => ?_⟩ (hm ▸ ht)
  by_contra hn
  exact hi.fits.node (Int.not_le.1 hn) (hpower.2 hne)

variable {mPid : τ → Pid}

/-- Nobody who prints the map is at an entry that is erased. -/
theorem Threads.erased_of_ne {s : Threads τ} {pid : Pid} (h : ∀ t, s.died t ≠ .walk (.entry pid)) : s.erased pid = s.died := by
  funext t
  unfold Threads.erased
  cases hdied : s.died t with
  | walk it => exact congrArg DiedPlace.walk (Cursor.erased_of_ne fun hit => h t (by rw [hdied, hit]))
  | _ => rfl

/-- The erasure of a notice that keeps out of the way does not doom the `powerOff` underway. -/
theorem Apart.not_dooms {s : Threads τ} {t : τ} {a : Answers} (hapart : Apart mPid s (.notice t, a)) :
    ¬Dooms (s.releasers (mPid t) a) (s.release (s.died t)) .binderDied := by
  rintro ⟨hd, hoff⟩
  obtain ⟨hcaller, hwalk, -⟩ := hapart hd
  rcases hoff with hoff | ⟨heq, hoff⟩
  · exact hwalk hoff
  · refine hcaller ?_ heq
    rcases hoff with hoff | ⟨-, hoff⟩
    · rw [show s.off = .unlink from hoff]
      rfl
    · cases ho : s.off with
      | returned ret => simp [ho] at hoff
      | _ => rfl

/-- Another request erases no entry that a notice is at, unless it is a `killall`. -/
theorem ThreadsInv.remapped_valid (hi : ThreadsInv s h) {r : Request} {s' : State} {word : BitVec 32}
    (hexit : CallExit r s.daemon s' s.word word)
    (hprint : ∀ uid, r = .killall uid → uidAllowed uid = true → ∀ t, (s.died t).isPrinting = false) (t : τ) :
    (s.died t).remapped s.daemon.pidsMap s'.pidsMap ≠ .walk .dangling := by
  have hsteady := hi.steady t
  cases hdied : s.died t with
  | walk it =>
    rw [hdied] at hsteady
    cases it with
    | begin => simp [DiedPlace.remapped]
    | dangling => exact absurd rfl hsteady
    | entry pid =>
      have hkept : ¬(pid ∈ s.daemon.pidsMap ∧ pid ∉ s'.pidsMap) := by
        rintro ⟨hmem, hgone⟩
        rcases hexit with ⟨hm, -⟩ | ⟨p, data, -, hm, -⟩ | ⟨hr, -, -⟩
        · rw [hm] at hgone
          exact hgone hmem
        · rw [hm, mem_addHold] at hgone
          exact hgone (Or.inr hmem)
        · rcases hr with ⟨uid, hkill, hu⟩ | hempty
          · have hquiet := hprint uid hkill hu t
            rw [hdied] at hquiet
            cases hquiet
          · rw [Std.ExtTreeMap.isEmpty_iff] at hempty
            simp [hempty] at hmem
      simp [DiedPlace.remapped, hkept]
  | _ => simp [DiedPlace.remapped]

variable [DecidableEq τ]

/-- An access of `powerOff` keeps the invariant, unless it erases the entry that a notice is at. -/
theorem threadsInv_powerOff (hi : ThreadsInv s h) {a : Answers} (ha : a.Succeeds) (hapart : Apart mPid s (.powerOff, a)) :
    ThreadsInv ((threads mPid).next s (.powerOff, a)) (h.apply ((threads mPid).out s (.powerOff, a))) := by
  obtain ⟨m, ht, hm⟩ := hi.map
  have hsame : (if s.off = .erase then s.erased s.pid else s.died) = s.died := by
    split_ifs with herase
    · exact Threads.erased_of_ne (hapart herase)
    · rfl
  have hnext : (threads mPid).next s (.powerOff, a) = s.put ((s.release .done).powerOff (s.releasers s.pid a)) := by
    simp only [threads, hsame]
    rfl
  have hout : (threads mPid).out s (.powerOff, a) =
      if s.off.isReturned = false ∧ ((s.release .done).powerOff (s.releasers s.pid a)).off.isReturned = true then
        .release s.pid
      else .keep := rfl
  generalize hc : s.releasers s.pid a = c at hnext hout
  have hpid : c.pid = s.pid := by rw [← hc]; rfl
  have hanswers : c.answers = a := by rw [← hc]; rfl
  rw [hnext, hout]
  cases hr : s.off.isReturned with
  | true =>
    have hstep : (s.release .done).powerOff c = s.release .done := by
      cases hoff : s.off <;> simp [hoff, OffPlace.isReturned] at hr
      simp only [Release.powerOff, Threads.release_off, hoff]
    rw [hstep, if_neg (by simp)]
    exact hi
  | false =>
    rw [Threads.mapOf_of_busy hr, ← hpid] at hm
    have hacts : s.Acts (s.put ((s.release .done).powerOff c)) := by
      by_cases ho : s.off.AtEntry
      · exact powerOff_acts_entry hm hi.fits ho
      · exact powerOff_acts_tail (hanswers ▸ ha) hi.fits ho hi.walk_valid
    obtain ⟨act, hallowed, hroom⟩ := hacts.room
    refine ⟨?_, hroom ▸ hi.watched.after hallowed, hacts.fits, hi.steady⟩
    have hafter := mapAt_powerOff (r := s.release .done) hm
    cases hr' : ((s.release .done).powerOff c).off.isReturned with
    | true =>
      refine ⟨PidsMap.dropHold m s.pid, ?_, (Threads.mapOf_of_returned hr').2 ?_⟩
      · rw [if_pos ⟨rfl, rfl⟩]
        exact tracks_dropHold ht s.pid
      · rw [← hpid]
        cases hoff : ((s.release .done).powerOff c).off with
        | returned ret =>
          rw [hoff] at hafter
          exact hafter
        | _ =>
          rw [hoff] at hr'
          cases hr'
    | false =>
      refine ⟨m, ?_, (Threads.mapOf_of_busy hr').2 ?_⟩
      · rw [if_neg (by simp)]
        exact ht
      · rw [hpid] at hafter
        exact hafter

/-- An access of a notice that keeps out of the way keeps the invariant. -/
theorem threadsInv_notice (hi : ThreadsInv s h) {a : Answers} (ha : a.Succeeds) {t : τ} (hapart : Apart mPid s (.notice t, a)) :
    ThreadsInv ((threads mPid).next s (.notice t, a)) (h.apply ((threads mPid).out s (.notice t, a))) := by
  obtain ⟨m, ht, hm⟩ := hi.map
  have hcrash := hi.not_crashed
  have hdoom := hapart.not_dooms
  have hsame : (if s.off ≠ .crashed ∧ s.died t = .erase then s.erased (mPid t) else s.died) = s.died := by
    split_ifs with herase
    · exact Threads.erased_of_ne (hapart herase.2).2.2
    · rfl
  have hnext : (threads mPid).next s (.notice t, a) =
      s.noticed t ((s.release (s.died t)).binderDied (s.releasers (mPid t) a)) := by
    simp only [threads, hsame]
    rfl
  have hout : (threads mPid).out s (.notice t, a) = if s.died t = .erase then .cancel (mPid t) else .keep := by
    simp [threads, hcrash]
  have hacts : s.Acts (s.noticed t ((s.release (s.died t)).binderDied (s.releasers (mPid t) a))) :=
    notice_acts ha hi.fits hcrash rfl (hi.steady t) hdoom
  rw [hnext, hout]
  obtain ⟨act, hallowed, hroom⟩ := hacts.room
  refine ⟨?_, hroom ▸ hi.watched.after hallowed, hacts.fits, fun u => ?_⟩
  · by_cases hd : s.died t = .erase
    · have hstep := binderDied_erase (c := s.releasers (mPid t) a) (r := s.release (s.died t)) hcrash hd hdoom
      refine ⟨m.erase (mPid t), ?_, ?_⟩
      · rw [if_pos hd, Holds.apply_cancel]
        exact ht.erase (mPid t)
      · rw [hstep]
        exact Threads.MapOf.erase (t := s.noticed t _) hm rfl rfl rfl (hapart hd).1
    · obtain ⟨⟨hoff, hmap⟩, -⟩ := binderDied_leaves (s.releasers (mPid t) a) (r := s.release (s.died t)) hd (hi.steady t)
      refine ⟨m, ?_, ?_⟩
      · rw [if_neg hd]
        exact ht
      · exact hm.congr rfl hoff hmap
  · by_cases hu : u = t
    · subst hu
      simp only [Threads.noticed, Function.update_self]
      by_cases hd : s.died u = .erase
      · rw [binderDied_erase (c := s.releasers (mPid u) a) (r := s.release (s.died u)) hcrash hd hdoom]
        simp
      · exact (binderDied_leaves (s.releasers (mPid u) a) (r := s.release (s.died u)) hd (hi.steady u)).2.2
    · simp only [Threads.noticed, Function.update_of_ne hu]
      exact hi.steady u

/-- The mutex is taken by another request. -/
theorem threadsInv_served (hi : ThreadsInv s h) (hr : s.off.isReturned = true) {a : Answers} (ha : a.Succeeds) {r : Request}
    (hoff : ∀ uid pid, r ≠ .powerOff uid pid) (hdied : ∀ pid, r ≠ .binderDied pid)
    (hapart : ∀ uid pid notifier, r = .powerOn uid pid notifier → ∀ t, ¬(s.died t).FoundEmpty)
    (hprint : ∀ uid, r = .killall uid → uidAllowed uid = true → ∀ t, (s.died t).isPrinting = false)
    (hb : (h.apply (holdOp r (handle s.daemon r { a with word := s.word }).ret)).Below (2 ^ 31)) :
    ThreadsInv (s.served r a) (h.apply (holdOp r (handle s.daemon r { a with word := s.word }).ret)) := by
  obtain ⟨m, ht, hm⟩ := hi.map
  rw [Threads.mapOf_of_returned hr] at hm
  subst hm
  have hserved := handle_served hi.fits hi.dark (ha.with_word s.word) rfl hoff hdied
  have hphase : (s.served r a).room.phase = s.room.phase := by
    funext w
    cases w with
    | none => rfl
    | some t => exact DiedPlace.phase_remapped _ _ _
  refine ⟨⟨_, tracks_step ht r _ hb, (Threads.mapOf_of_returned (s := s.served r a) hr).2 rfl⟩, ?_,
    ⟨hserved.idle, hserved.node, fun hclose => ?_⟩, fun t => ?_⟩
  · have hact : ∃ act, s.room.Allowed act ∧ (s.served r a).room = s.room.after act := by
      rcases hserved.exit with ⟨hm, hw⟩ | ⟨pid, data, ⟨uid, notifier, hon⟩, hm, hw⟩ | ⟨-, hm, hw⟩
      · refine ⟨.pass, trivial, Room.ext (Set.ext fun p => ?_) (propext hw) hphase⟩
        show p ∈ (handle s.daemon r { a with word := s.word }).state.pidsMap ↔ _
        rw [hm]
        exact Iff.rfl
      · refine ⟨.enter pid, fun w hw => ?_, Room.ext (Set.ext fun p => ?_) (propext (iff_of_true hw trivial)) hphase⟩
        · cases w with
          | none =>
            cases hoff : s.off <;> simp [hoff, OffPlace.isReturned] at hr
            simp [hoff] at hw
          | some t =>
            have hfound := hapart uid pid notifier hon t
            cases hd : s.died t <;> simp [hd, DiedPlace.FoundEmpty] at hfound hw
        · show p ∈ (handle s.daemon r { a with word := s.word }).state.pidsMap ↔ _
          rw [hm, mem_addHold]
          exact Iff.rfl
      · refine ⟨.clear, trivial, Room.ext ?_ (propext (iff_of_false hw id)) hphase⟩
        exact (Threads.room_inside_eq_empty_iff _).2 hm
    obtain ⟨act, hallowed, hroom⟩ := hact
    exact hroom ▸ hi.watched.after hallowed
  · rw [show s.off = .close from hclose] at hr
    cases hr
  · exact hi.remapped_valid hserved.exit hprint t

/-- A request that takes the mutex keeps the invariant. -/
theorem threadsInv_request (hi : ThreadsInv s h) {a : Answers} (ha : a.Succeeds) {r : Request}
    (hapart : Apart mPid s (.request r, a)) (hb : (h.apply ((threads mPid).out s (.request r, a))).Below (2 ^ 31)) :
    ThreadsInv ((threads mPid).next s (.request r, a)) (h.apply ((threads mPid).out s (.request r, a))) := by
  have hnext : (threads mPid).next s (.request r, a) = if s.off.isReturned = true then s.accept r a else s := rfl
  have hout : (threads mPid).out s (.request r, a) = if s.off.isReturned = true then s.acceptOp r a else .keep := rfl
  cases hr : s.off.isReturned with
  | false =>
    rw [hnext, hout, if_neg (by simp [hr]), if_neg (by simp [hr])]
    exact hi
  | true =>
    rw [hout, if_pos hr] at hb
    rw [hnext, hout, if_pos hr, if_pos hr]
    by_cases hoff : ∃ uid pid, r = .powerOff uid pid
    · obtain ⟨uid, pid, rfl⟩ := hoff
      exact threadsInv_call hi hr uid pid a
    · by_cases hdied : ∃ pid, r = .binderDied pid
      · obtain ⟨pid, rfl⟩ := hdied
        exact hi
      · have haccept : s.accept r a = s.served r a ∧
            s.acceptOp r a = holdOp r (handle s.daemon r { a with word := s.word }).ret := by
          cases r with
          | powerOff uid pid => exact absurd ⟨uid, pid, rfl⟩ hoff
          | binderDied pid => exact absurd ⟨pid, rfl⟩ hdied
          | _ => exact ⟨rfl, rfl⟩
        rw [haccept.2] at hb
        rw [haccept.1, haccept.2]
        refine threadsInv_served hi hr ha (fun uid pid he => hoff ⟨uid, pid, he⟩) (fun pid he => hdied ⟨pid, he⟩) ?_ ?_ hb
        · rintro uid pid notifier rfl
          exact hapart
        · rintro uid rfl
          exact hapart

/-- Pids 5, 6 and 7 power on. Pid 5 powers off while 6 and 7 die: all three are erased before anybody looks, so that the release and
both notices find the map empty. -/
def crossing : List (Access (Fin 2) × Answers) :=
  [.request (.powerOn 1000 5 (some 1)), .request (.powerOn 1000 6 (some 2)), .request (.powerOn 1000 7 (some 3)),
    .request (.powerOff 1000 5), .powerOff, .powerOff, .notice 0, .powerOff, .powerOff, .powerOff, .powerOff, .notice 1, .powerOff,
    .powerOff, .powerOff, .powerOff, .notice 0, .notice 1, .powerOff, .notice 0, .powerOff, .notice 0, .notice 1].map fun x =>
    (x, working)

end EseManager
