import EseManager.Device
import EseManager.Processes

/-!
# Late death notices

A death notice cancels the registration of its pid, whoever has the pid by then. While pids are not reused too early that is right:
`WorldInv` says that a live process has all the holds it is owed, and only a notice delivered to a pid whose present process holds
the eSE breaks it.
-/

namespace EseManager

/-- Every live process that holds the eSE is registered. -/
def HoldersRegistered (w : World) : Prop := ∀ pid p, w.live pid = some p → p.Holds → pid ∈ w.daemon.pidsMap

/-- A notice is not delivered for a pid whose present process holds the eSE. -/
def Timely (w : World) (e : Event) : Prop :=
  ∀ n a, e = .notice n a → n ∈ w.notices → ∀ p, w.live n.mPid = some p → ¬p.Holds

/-- A delivered notice does not switch the eSE off while a live process holds it. -/
def SparesHolders (w : World) (e : Event) : Prop :=
  ∀ n a, e = .notice n a → n ∈ w.notices → (∃ c ∈ (binderDied w.daemon n.mPid a).calls, c.isPowerOff = true) →
    ∀ pid p, w.live pid = some p → ¬p.Holds

/-- The map follows the holds, and no live process is owed more than the holds of its pid. -/
structure WorldInv (w : World × Holds Pid) : Prop where
  tracks : Tracks ServiceData.count w.1.daemon.pidsMap w.2
  owed : ∀ pid p, w.1.live pid = some p → p.ones ≤ w.2 pid + p.offs

theorem WorldInv.holdersRegistered {w : World × Holds Pid} (h : WorldInv w) : HoldersRegistered w.1 := by
  intro pid p hp hholds
  have howed := h.owed pid p hp
  rw [h.tracks.mem_iff]
  unfold Process.Holds at hholds
  omega

/-! ## Keeping the invariant -/

/-- The holds once an event is done. -/
def holdsAfterEvent (w : World × Holds Pid) (e : Event) : Holds Pid := w.2.apply (eventOp e (world.out w.1 e))

/-- The map follows the holds, as long as no pid reaches 2^31 of them. -/
theorem tracks_event {w : World × Holds Pid} (ht : Tracks ServiceData.count w.1.daemon.pidsMap w.2) (e : Event)
    (hb : (holdsAfterEvent w e).Below (2 ^ 31)) :
    Tracks ServiceData.count (w.1.daemonAfter e).pidsMap (holdsAfterEvent w e) := by
  unfold holdsAfterEvent World.daemonAfter world eventOp at *
  cases hg : w.1.given e with
  | none =>
    simp only [hg, Option.map_none, Holds.apply_keep]
    exact ht
  | some x =>
    simp only [hg, Option.map_some] at hb ⊢
    exact tracks_step ht x.1 x.2 hb

/-- Holds of a pid that only go up go on covering what a process is owed. -/
theorem owed_update {live : Pid → Option Process} {h h' : Holds Pid} {pid : Pid} {p' : Process}
    (ho : ∀ q p, live q = some p → p.ones ≤ h q + p.offs) (hne : ∀ q, q ≠ pid → h' q = h q)
    (hp : p'.ones ≤ h' pid + p'.offs) :
    ∀ q p, Function.update live pid (some p') q = some p → p.ones ≤ h' q + p.offs := by
  intro q p hq
  by_cases hqp : q = pid
  · subst hqp
    rw [Function.update_self, Option.some.injEq] at hq
    subst hq
    exact hp
  · rw [Function.update_of_ne hqp] at hq
    rw [hne q hqp]
    exact ho q p hq

theorem owed_powerOn {w : World × Holds Pid} (hi : WorldInv w) (uid : Int) (pid : Pid) (notifier : Option Binder)
    (a : Answers) : ∀ q p, w.1.liveAfter (.powerOn uid pid notifier a) q = some p →
      p.ones ≤ holdsAfterEvent w (.powerOn uid pid notifier a) q + p.offs := by
  cases hlive : w.1.live pid with
  | none =>
    simp only [World.liveAfter, holdsAfterEvent, world, World.given, eventOp, hlive, Option.map_none, Holds.apply_keep]
    exact hi.owed
  | some p =>
    have howed := hi.owed pid p hlive
    simp only [World.liveAfter, holdsAfterEvent, world, World.given, eventOp, hlive, Option.map_some, handle_powerOn]
    rcases powerOn_cases w.1.daemon uid pid notifier a with ⟨hneg, -⟩ | ⟨hone, -⟩
    · rw [holdOp_powerOn_of_neg hneg, Holds.apply_keep]
      refine owed_update hi.owed (fun _ _ => rfl) ?_
      have hne : (powerOn w.1.daemon uid pid notifier a).ret ≠ 1 := by omega
      simp only [Process.poweredOn, if_neg hne]
      exact howed
    · rw [hone, holdOp_powerOn_one, Holds.apply_acquire]
      refine owed_update hi.owed (fun q hq => Function.update_of_ne hq _ _) ?_
      simp only [Process.poweredOn, hone, if_true, Function.update_self]
      omega

theorem owed_powerOff {w : World × Holds Pid} (hi : WorldInv w) (uid : Int) (pid : Pid) (a : Answers) :
    ∀ q p, w.1.liveAfter (.powerOff uid pid a) q = some p →
      p.ones ≤ holdsAfterEvent w (.powerOff uid pid a) q + p.offs := by
  cases hlive : w.1.live pid with
  | none =>
    simp only [World.liveAfter, holdsAfterEvent, world, World.given, eventOp, hlive, Option.map_none, Holds.apply_keep]
    exact hi.owed
  | some p =>
    have howed := hi.owed pid p hlive
    simp only [World.liveAfter, holdsAfterEvent, world, World.given, eventOp, hlive, Option.map_some, holdOp]
    split
    · rw [Holds.apply_release]
      refine owed_update hi.owed (fun q hq => Function.update_of_ne hq _ _) ?_
      simp only [Function.update_self]
      omega
    · rw [Holds.apply_keep]
      refine owed_update hi.owed (fun _ _ => rfl) ?_
      simp only
      omega

theorem owed_notice {w : World × Holds Pid} (hi : WorldInv w) {n : ClientDiedNotifier} {a : Answers}
    (ht : Timely w.1 (.notice n a)) : ∀ q p, w.1.liveAfter (.notice n a) q = some p →
      p.ones ≤ holdsAfterEvent w (.notice n a) q + p.offs := by
  intro q p hq
  have howed := hi.owed q p hq
  by_cases hn : n ∈ w.1.notices
  · simp only [holdsAfterEvent, world, World.given, eventOp, if_pos hn, Option.map_some, holdOp, Holds.apply_cancel]
    by_cases hqn : q = n.mPid
    · subst hqn
      -- the notice takes all holds of the pid, and its present process is owed none
      have hnot := ht n a rfl hn p hq
      unfold Process.Holds at hnot
      omega
    · rw [Function.update_of_ne hqn]
      exact howed
  · simp only [holdsAfterEvent, world, World.given, eventOp, if_neg hn, Option.map_none, Holds.apply_keep]
    exact howed

/-- Every event but a notice that comes too late keeps the invariant, as long as no pid reaches 2^31 holds. -/
theorem worldInv_step {w : World × Holds Pid} (hi : WorldInv w) {e : Event} (ht : Timely w.1 e)
    (hb : (holdsAfterEvent w e).Below (2 ^ 31)) : WorldInv (heldWorld.next w e) := by
  refine ⟨tracks_event hi.tracks e hb, ?_⟩
  have key : ∀ q p, w.1.liveAfter e q = some p → p.ones ≤ holdsAfterEvent w e q + p.offs := by
    cases e with
    | start pid =>
      have hkeep : holdsAfterEvent w (.start pid) = w.2 := rfl
      rw [hkeep]
      cases hlive : w.1.live pid with
      | none =>
        simp only [World.liveAfter, hlive]
        exact owed_update hi.owed (fun _ _ => rfl) (Nat.zero_le _)
      | some p =>
        simp only [World.liveAfter, hlive]
        exact hi.owed
    | powerOn uid pid notifier a => exact owed_powerOn hi uid pid notifier a
    | powerOff uid pid a => exact owed_powerOff hi uid pid a
    | die pid =>
      have hkeep : holdsAfterEvent w (.die pid) = w.2 := rfl
      rw [hkeep]
      intro q p hq
      by_cases hqp : q = pid
      · simp [World.liveAfter, hqp] at hq
      · simp only [World.liveAfter, Function.update_of_ne hqp] at hq
        exact hi.owed q p hq
    | notice n a => exact owed_notice hi ht
    | lapse n =>
      have hkeep : holdsAfterEvent w (.lapse n) = w.2 := rfl
      rw [hkeep]
      exact hi.owed
  exact key

/-! ## Pids that are not reused too early -/

/-- No process is started with a pid that has a notice of its former process in flight. -/
def NoEarlyReuse (w : World) (e : Event) : Prop := ∀ pid, e = .start pid → ∀ n ∈ w.notices, n.mPid ≠ pid

/-- The links of a process are of notifiers made for its pid, and a pid with a notice in flight has no live process. -/
structure NoticesInv (w : World) : Prop where
  linked : ∀ pid p, w.live pid = some p → ∀ l ∈ p.linked, l.2.mPid = pid
  free : ∀ n ∈ w.notices, w.live n.mPid = none

/-- `powerOn` links notifiers for its caller only. -/
theorem mPid_of_linksMade (s : State) (uid : Int) (pid : Pid) (notifier : Option Binder) (a : Answers) :
    ∀ l ∈ linksMade s (powerOn s uid pid notifier a).state, l.2.mPid = pid := by
  intro l hl
  obtain ⟨hl, hnew⟩ := List.mem_filter.1 hl
  have hnew' : l ∉ s.links := by simpa using hnew
  rcases powerOn_cases s uid pid notifier a with ⟨-, hsame⟩ | ⟨-, -, cb, -, -, hst⟩
  · rw [hsame.links] at hl
    exact absurd hl hnew'
  · rw [hst] at hl
    rcases mem_linksWith_iff.1 hl with hl | ⟨-, rfl⟩
    · exact absurd hl hnew'
    · rfl

/-- A live process that changes keeps the invariant when its links are of its pid. -/
theorem noticesInv_update {w : World} (hi : NoticesInv w) {pid : Pid} {p : Process} (hp : w.live pid = some p)
    (p' : Process) (hl : ∀ l ∈ p'.linked, l.2.mPid = pid) (s : State) :
    NoticesInv { daemon := s, live := Function.update w.live pid (some p'), notices := w.notices } := by
  constructor
  · intro q r hq
    by_cases hqp : q = pid
    · subst hqp
      simp only [Function.update_self, Option.some.injEq] at hq
      subst hq
      exact hl
    · simp only [Function.update_of_ne hqp] at hq
      exact hi.linked q r hq
  · intro n hn
    have hfree := hi.free n hn
    have hne : n.mPid ≠ pid := by
      intro heq
      rw [heq, hp] at hfree
      cases hfree
    simp only [Function.update_of_ne hne]
    exact hfree

/-- The invariant is about the processes and the notices only. -/
theorem NoticesInv.congr {w w' : World} (hi : NoticesInv w) (hlive : w'.live = w.live) (hnotices : w'.notices = w.notices) :
    NoticesInv w' := by
  constructor
  · rw [hlive]
    exact hi.linked
  · rw [hlive, hnotices]
    exact hi.free

/-- A process starts under a pid for which no notice is in flight. -/
theorem noticesInv_start {w : World} (hi : NoticesInv w) {pid : Pid} (hr : ∀ n ∈ w.notices, n.mPid ≠ pid) (s : State) :
    NoticesInv { daemon := s, live := Function.update w.live pid (some Process.started), notices := w.notices } := by
  constructor
  · intro q p hq
    by_cases hqp : q = pid
    · subst hqp
      simp only [Function.update_self, Option.some.injEq] at hq
      subst hq
      intro l hl
      cases hl
    · simp only [Function.update_of_ne hqp] at hq
      exact hi.linked q p hq
  · intro n hn
    simp only [Function.update_of_ne (hr n hn)]
    exact hi.free n hn

/-- A process dies, and notices of its pid are sent off. -/
theorem noticesInv_die {w : World} (hi : NoticesInv w) {pid : Pid} {notices : List ClientDiedNotifier}
    (hsent : ∀ n ∈ notices, n ∈ w.notices ∨ n.mPid = pid) (s : State) :
    NoticesInv { daemon := s, live := Function.update w.live pid none, notices := notices } := by
  constructor
  · intro q p hq
    by_cases hqp : q = pid
    · simp [hqp] at hq
    · simp only [Function.update_of_ne hqp] at hq
      exact hi.linked q p hq
  · intro n hn
    by_cases hnp : n.mPid = pid
    · simp [hnp]
    · simp only [Function.update_of_ne hnp]
      exact hi.free n ((hsent n hn).resolve_right hnp)

theorem noticesInv_step {w : World} (hi : NoticesInv w) {e : Event} (hr : NoEarlyReuse w e) :
    NoticesInv (world.next w e) := by
  cases e with
  | start pid =>
    cases hlive : w.live pid with
    | some p => exact hi.congr (by simp only [world, World.liveAfter, hlive]) rfl
    | none =>
      have hkey := noticesInv_start hi (hr pid rfl) (w.daemonAfter (.start pid))
      simpa only [world, World.liveAfter, World.noticesAfter, hlive] using hkey
  | powerOn uid pid notifier a =>
    cases hlive : w.live pid with
    | none => exact hi.congr (by simp only [world, World.liveAfter, hlive]) rfl
    | some p =>
      have hlinked : ∀ l ∈ (p.poweredOn w.daemon (powerOn w.daemon uid pid notifier a)).linked, l.2.mPid = pid := by
        intro l hl
        rcases List.mem_append.1 hl with hl | hl
        · exact hi.linked pid p hlive l hl
        · exact mPid_of_linksMade w.daemon uid pid notifier a l hl
      have hkey := noticesInv_update hi hlive _ hlinked (w.daemonAfter (.powerOn uid pid notifier a))
      simpa only [world, World.liveAfter, World.noticesAfter, hlive] using hkey
  | powerOff uid pid a =>
    cases hlive : w.live pid with
    | none => exact hi.congr (by simp only [world, World.liveAfter, hlive]) rfl
    | some p =>
      have hkey := noticesInv_update hi hlive { p with offs := p.offs + 1 } (hi.linked pid p hlive)
        (w.daemonAfter (.powerOff uid pid a))
      simpa only [world, World.liveAfter, World.noticesAfter, hlive] using hkey
  | die pid =>
    have hsent : ∀ n ∈ w.noticesAfter (.die pid), n ∈ w.notices ∨ n.mPid = pid := by
      intro n hn
      cases hlive : w.live pid with
      | none =>
        simp only [World.noticesAfter, hlive] at hn
        exact Or.inl hn
      | some p =>
        simp only [World.noticesAfter, hlive] at hn
        rcases List.mem_append.1 hn with hn | hn
        · exact Or.inl hn
        · obtain ⟨l, hl, rfl⟩ := List.mem_map.1 hn
          exact Or.inr (hi.linked pid p hlive l (List.mem_filter.1 hl).1)
    exact noticesInv_die hi hsent (w.daemonAfter (.die pid))
  | notice n a => exact ⟨hi.linked, fun m hm => hi.free m (List.mem_of_mem_erase hm)⟩
  | lapse n =>
    refine ⟨hi.linked, fun m hm => hi.free m ?_⟩
    simp only [world, World.noticesAfter] at hm
    split at hm
    · exact hm
    · exact List.mem_of_mem_erase hm

/-- When pids are not reused too early, every notice is in time. -/
theorem timely_of_noEarlyReuse {es : List Event} (h : world.Along NoEarlyReuse World.init es) :
    world.Along Timely World.init es := by
  have hinit : NoticesInv World.init := by
    refine ⟨fun pid p hp => ?_, fun n hn => ?_⟩
    · cases hp
    · cases hn
  refine Machine.along_of_inv (I := NoticesInv) (fun w e hi hr => ⟨noticesInv_step hi hr, ?_⟩) hinit h
  intro n a he hn p hp
  rw [hi.free n hn] at hp
  cases hp

/-! ## The exact condition -/

/-- A notice that comes too late unregisters a live process that holds the eSE. -/
theorem timely_of_holdersRegistered {w : World} {e : Event} (h : HoldersRegistered (world.next w e)) : Timely w e := by
  intro n a he hn p hp hholds
  subst he
  have hmem : n.mPid ∈ (w.daemonAfter (.notice n a)).pidsMap := h n.mPid p hp hholds
  simp only [World.daemonAfter, World.given, if_pos hn, handle_binderDied, binderDied_eq] at hmem
  exact absurd hmem (by simp)

/-- Where every live process that holds the eSE is still registered after the event, the event has not switched it off under
one. -/
theorem sparesHolders_of_registered {w : World} {e : Event} (h : HoldersRegistered (world.next w e)) :
    SparesHolders w e := by
  intro n a he hn hoff pid p hp hholds
  subst he
  obtain ⟨c, hc, hcoff⟩ := hoff
  have hmem : pid ∈ (w.daemonAfter (.notice n a)).pidsMap := h pid p hp hholds
  have hempty := handle_empties (r := .binderDied n.mPid) hc hcoff
  simp only [World.daemonAfter, World.given, if_pos hn] at hmem
  rw [Std.ExtTreeMap.isEmpty_iff] at hempty
  rw [hempty] at hmem
  exact absurd hmem (by simp)

/-- Over every run of processes that start, send power requests, die and have their pids reused, with notices delivered in any
order and no pid reaching 2^31 holds: every live process with more 1-replies than `powerOff` requests is registered in every state
exactly when no notice is delivered for a pid whose present process is such a process, which is so when no pid is reused too
early; and then no notice switches the eSE off while such a process exists. -/
theorem late_notices_iff (es : List Event)
    (hb : heldWorld.Always (fun w => w.2.Below (2 ^ 31)) heldWorldInit es) :
    (world.Always HoldersRegistered World.init es ↔ world.Along Timely World.init es) ∧
      (world.Along NoEarlyReuse World.init es → world.Along Timely World.init es) ∧
      (world.Along Timely World.init es → world.Along SparesHolders World.init es) := by
  have hregistered : world.Along Timely World.init es → world.Always HoldersRegistered World.init es := by
    intro ht
    have hinit : WorldInv heldWorldInit := by
      refine ⟨Tracks.empty, ?_⟩
      intro pid p hp
      cases hp
    have ht' : heldWorld.Along (fun w e => Timely w.1 e) heldWorldInit es := (world.track_along _ Timely _ _ es).2 ht
    have hsteps := Machine.along_and.2 ⟨ht', hb.along_next⟩
    have hinv : heldWorld.Always WorldInv heldWorldInit es :=
      Machine.always_inv (fun w e hi hp => worldInv_step hi hp.1 hp.2) hinit hsteps
    have hall : heldWorld.Always (fun w => HoldersRegistered w.1) heldWorldInit es :=
      fun pre hpre => (hinv pre hpre).holdersRegistered
    exact (world.track_always _ HoldersRegistered _ _ es).1 hall
  refine ⟨⟨fun h => ?_, hregistered⟩, timely_of_noEarlyReuse, fun ht => ?_⟩
  · exact h.along_next.mono fun w e => timely_of_holdersRegistered
  · exact (hregistered ht).along_next.mono fun w e => sparesHolders_of_registered

/-! ## The bound on the holds -/

/-- A live, registered pid counts one hold more for each `powerOn`, modulo 2^32. -/
theorem run_replicate_powerOn (n : Nat) {w : World} {p : Process} {d : ServiceData} (hp : w.live 5 = some p)
    (hd : w.daemon.pidsMap[(5 : Pid)]? = some d) :
    let w' := world.run w (List.replicate n (.powerOn 1000 5 (some 1) working))
    (∃ p', w'.live 5 = some p' ∧ p'.ones = p.ones + n ∧ p'.offs = p.offs) ∧
      ∃ d', w'.daemon.pidsMap[(5 : Pid)]? = some d' ∧ d'.clientThreadCount = d.clientThreadCount + Int32.ofNat n := by
  induction n generalizing w p d with
  | zero => exact ⟨⟨p, hp, rfl, rfl⟩, d, hd, by simp⟩
  | succ n ih =>
    have hb : BindingAccepted w.daemon working := Or.inr (Or.inl rfl)
    obtain ⟨hret, hst⟩ := powerOn_succeeds working_succeeds ⟨by decide, by decide⟩ (by decide : uidAllowed 1000 = true) hb 5 1
    have hlive : (world.next w (.powerOn 1000 5 (some 1) working)).live 5 =
        some (p.poweredOn w.daemon (powerOn w.daemon 1000 5 (some 1) working)) := by
      simp [world, World.liveAfter, hp]
    have hmap : (world.next w (.powerOn 1000 5 (some 1) working)).daemon.pidsMap[(5 : Pid)]? =
        some { d with clientThreadCount := d.clientThreadCount + 1 } := by
      have hadm : (admittedState w.daemon working).pidsMap[(5 : Pid)]? = some d := hd
      simp only [world, World.daemonAfter, World.given, hp, Option.map_some, handle_powerOn, hst, registered,
        PidsMap.addHold, hadm]
      simp
    obtain ⟨⟨p', hp', hones, hoffs⟩, d', hd', hcount⟩ := ih hlive hmap
    refine ⟨⟨p', hp', ?_, hoffs⟩, d', hd', ?_⟩
    · rw [hones]
      simp only [Process.poweredOn, hret, if_true]
      omega
    · rw [hcount, Int32.ofNat_add, Int32.add_comm (Int32.ofNat n), ← Int32.add_assoc]
      rfl

/-- A process of pid 5 powers the eSE on `n + 1` times and off once. -/
def powersOn (n : Nat) : List Event :=
  .start 5 :: .powerOn 1000 5 (some 1) working ::
    (List.replicate n (.powerOn 1000 5 (some 1) working) ++ [.powerOff 1000 5 working])

/-- When the thread count wraps around, one `powerOff` unregisters a process that has holds left, with no notice in sight. -/
theorem powersOn_unregisters {n : Nat} (hn : 0 < n) (hwrap : ¬1 + Int32.ofNat n - 1 > 0) :
    world.Along Timely World.init (powersOn n) ∧ ¬world.Always HoldersRegistered World.init (powersOn n) := by
  constructor
  · refine world.along_of_forall_mem (fun e he w m a heq => ?_) _
    subst heq
    simp [powersOn, List.mem_replicate] at he
  · intro h
    obtain ⟨⟨p, hp, hones, hoffs⟩, d, hd, hcount⟩ :=
      run_replicate_powerOn n (w := world.run World.init [.start 5, .powerOn 1000 5 (some 1) working])
        (p := { ones := 1, offs := 0, linked := [(1, { addr := 0, mPid := 5 })] })
        (d := { lServiceCb := some 1, lDeathNotifier := some { addr := 0, mPid := 5 }, clientThreadCount := 1 })
        (by decide) (by decide)
    have hlast := h (powersOn n) (List.prefix_refl _)
    unfold powersOn at hlast
    rw [Machine.run_cons, Machine.run_cons, Machine.run_append, Machine.run_cons, Machine.run_nil] at hlast
    simp only [Machine.run_cons, Machine.run_nil] at hp hd
    generalize world.run (world.next (world.next World.init (.start 5)) (.powerOn 1000 5 (some 1) working))
      (List.replicate n (.powerOn 1000 5 (some 1) working)) = w at hp hd hlast
    have hholds : ({ p with offs := p.offs + 1 } : Process).Holds := by
      simp only [Process.Holds, hones, hoffs]
      omega
    have hreg := hlast 5 { p with offs := p.offs + 1 } (by simp [world, World.liveAfter, hp]) hholds
    simp only [world, World.daemonAfter, World.given, hp, Option.map_some, handle_powerOff] at hreg
    rw [← hcount] at hwrap
    have hexit := powerOff_exit w.daemon 1000 5 working
    generalize powerOff w.daemon 1000 5 working = o at hexit hreg
    cases hexit with
    | refused hu => exact absurd hu (by decide)
    | unregistered _ hm =>
      rw [hd] at hm
      cases hm
    | kept _ d' hm hc =>
      rw [hd, Option.some.injEq] at hm
      subst hm
      exact hwrap hc
    | shared => simp [released] at hreg
    | closed => simp [released] at hreg
    | last _ _ _ _ _ _ o ho =>
      rw [Outcome.after_state, (sameClients_switchOff ho).pidsMap] at hreg
      simp [released] at hreg

/-- So the bound on the holds is needed: after 2^31 + 1 `powerOn` requests the count is negative. -/
theorem overflow_unregisters :
    world.Along Timely World.init (powersOn (2 ^ 31)) ∧ ¬world.Always HoldersRegistered World.init (powersOn (2 ^ 31)) :=
  powersOn_unregisters (by decide) (by decide)

/-- A process of pid 5 powers the eSE on and dies, its pid goes to a new process that powers it on as well, and then the notice of
the first is delivered. -/
def reused : List Event :=
  [.start 5, .powerOn 1000 5 (some 1) working, .die 5, .start 5, .powerOn 1000 5 (some 2) working,
    .notice { addr := 0, mPid := 5 } working]

/-- The notice of the dead process unregisters the live one, and switches the eSE off under it. -/
theorem late_notice_unregisters_new_process :
    (world.run World.init reused).live 5 = some { ones := 1, offs := 0, linked := [] } ∧
      5 ∉ (world.run World.init reused).daemon.pidsMap ∧
      world.out (world.run World.init (reused.take 5)) (.notice { addr := 0, mPid := 5 } working) =
        some (.binderDied 5, 0, [.ioctl 3 (.setSpmPwr 0) 0]) ∧
      ¬world.Always HoldersRegistered World.init reused := by
  have hlive : (world.run World.init reused).live 5 =
      some { ones := 1, offs := 0, linked := [] } := by decide
  have hmap : 5 ∉ (world.run World.init reused).daemon.pidsMap := by decide
  refine ⟨hlive, hmap, by decide, fun h => ?_⟩
  exact hmap (h reused (List.prefix_refl _) 5 _ hlive (by decide))

/-- The same, with the notice delivered before the pid is reused. -/
def refreshed : List Event :=
  [.start 5, .powerOn 1000 5 (some 1) working, .die 5, .notice { addr := 0, mPid := 5 } working, .start 5,
    .powerOn 1000 5 (some 2) working]

/-- A notice in time leaves the new process registered, and the eSE on. -/
theorem timely_notice_keeps_new_process :
    world.Always HoldersRegistered World.init refreshed ∧ world.Along SparesHolders World.init refreshed := by
  obtain ⟨hiff, hreuse, hspares⟩ :=
    late_notices_iff refreshed (Holds.always_below_of_length_lt world eventOp World.init (by decide))
  have ht : world.Along NoEarlyReuse World.init refreshed := by
    refine ⟨?_, ?_, ?_, ?_, ?_, ?_, trivial⟩
    · intro pid he n hn
      cases hn
    · intro pid he
      cases he
    · intro pid he
      cases he
    · intro pid he
      cases he
    · intro pid he n hn
      cases hn
    · intro pid he
      cases he
  exact ⟨hiff.2 (hreuse ht), hspares (hreuse ht)⟩

end EseManager
