import EseManager.Site
import EseManager.Theorems.Coverage
import EseManager.Theorems.PidReuse

/-!
# What the dead leave registered

Processes come and go, die with holds, and leave their pids to others; notices arrive late or lapse; the daemon itself dies and is
started again. A registration whose link is in place has somebody to end it: the process that made the link, whose death sends off a
notice, or that notice, which is in flight and cannot lapse (`NoticesSent`). A registration that has lost its link has nobody. So once
nobody lives and no notice is in flight, those pids are registered for which a `powerOff` has released one of several holds
(`quiescent_registered_iff`).
-/

namespace EseManager

/-- Somebody tells of the link: the live process that it was made for, or a notice in flight. -/
def World.Tells (w : World) (l : Link) : Prop :=
  (∃ p, w.live l.2.mPid = some p ∧ l ∈ p.linked) ∨ l.2 ∈ w.notices

/-- The invariant of the processes: every link in place is that of an entry, and has somebody to tell of it. -/
structure NoticesSent (w : World) : Prop where
  stored : StoredInv w.daemon
  tells : ∀ l ∈ w.daemon.links, w.Tells l

/-- The invariant is about daemon, processes and notices as they are. -/
theorem NoticesSent.congr {w w' : World} (h : NoticesSent w) (hd : w'.daemon = w.daemon) (hlive : w'.live = w.live)
    (hnotices : w'.notices = w.notices) : NoticesSent w' := by
  cases w
  cases w'
  simp only at hd hlive hnotices
  subst hd hlive hnotices
  exact h

/-! ## New links -/

/-- Only a `powerOn` makes links. -/
theorem handle_links_subset {s : State} {r : Request} (a : Answers) (hr : ∀ uid pid notifier, r ≠ .powerOn uid pid notifier) :
    ∀ l ∈ (handle s r a).state.links, l ∈ s.links := by
  intro l hl
  cases handle_clients s r a with
  | kept _ hs => rwa [hs.links] at hl
  | acquired pid cb hop =>
    cases r with
    | powerOn uid pid notifier => exact absurd rfl (hr uid pid notifier)
    | powerOff | killall =>
      simp only [holdOp] at hop
      split at hop <;> cases hop
    | getState | geteSEBindingStatus | binderDied => cases hop
  | absent _ _ _ hs => rwa [hs.links] at hl
  | oneOfSeveral pid d _ _ _ hs =>
    rw [hs.links] at hl
    exact (linksWithout_sublist s d).subset hl
  | lastOne pid d _ _ _ hs =>
    rw [hs.links] at hl
    exact (linksWithout_sublist s d).subset hl
  | cleared _ _ hlinks =>
    rw [hlinks] at hl
    cases hl
  | erased pid _ hs =>
    rw [hs.links] at hl
    exact (unregister_sublist s pid).subset hl

/-! ## One lemma for each kind of incident -/

/-- A request that is not of a process leaves processes and notices as they are. -/
theorem noticesSent_handled {w : World} (h : NoticesSent w) {r : Request} (a : Answers)
    (hr : ∀ uid pid notifier, r ≠ .powerOn uid pid notifier) : NoticesSent (w.handled r a) :=
  ⟨storedInv_step h.stored r a, fun l hl => h.tells l (handle_links_subset a hr l hl)⟩

/-- A new daemon has no links. -/
theorem noticesSent_restarted (w : World) : NoticesSent w.restarted := by
  refine ⟨StoredInv.init, fun l hl => ?_⟩
  cases hl

theorem noticesSent_init : NoticesSent World.init := by
  refine ⟨StoredInv.init, fun l hl => ?_⟩
  cases hl

/-- A process that changes and keeps its links leaves somebody to tell of every link there was. -/
theorem World.Tells.update {w : World} {l : Link} (h : w.Tells l) {pid : Pid} {p r : Process} (hp : w.live pid = some p)
    (hl : ∀ l ∈ p.linked, l ∈ r.linked) (s : State) :
    World.Tells { daemon := s, live := Function.update w.live pid (some r), notices := w.notices } l := by
  rcases h with ⟨q, hq, hmem⟩ | hn
  · left
    by_cases hpid : l.2.mPid = pid
    · rw [hpid, hp, Option.some.injEq] at hq
      subst hq
      exact ⟨r, by rw [hpid]; exact Function.update_self pid (some r) w.live, hl l hmem⟩
    · exact ⟨q, (Function.update_of_ne hpid (some r) w.live).trans hq, hmem⟩
  · exact Or.inr hn

/-- The links of a process after its `powerOn` are those before, and the new ones. -/
theorem noticesSent_powerOn {w : World} (h : NoticesSent w) (uid : Int) (pid : Pid) (notifier : Option Binder) (a : Answers) :
    NoticesSent (world.next w (.powerOn uid pid notifier a)) := by
  cases hp : w.live pid with
  | none =>
    refine h.congr ?_ ?_ rfl
    · simp only [world, World.daemonAfter, World.given, hp, Option.map_none]
    · simp only [world, World.liveAfter, hp]
  | some p =>
    have hnext : world.next w (.powerOn uid pid notifier a) =
        { daemon := (powerOn w.daemon uid pid notifier a).state
          live := Function.update w.live pid (some (p.poweredOn w.daemon (powerOn w.daemon uid pid notifier a)))
          notices := w.notices } := by
      simp only [world, World.daemonAfter, World.given, World.liveAfter, World.noticesAfter, hp, Option.map_some, handle_powerOn]
    rw [hnext]
    refine ⟨storedInv_step h.stored (.powerOn uid pid notifier) a, fun l hl => ?_⟩
    by_cases hnew : l ∈ w.daemon.links
    · exact (h.tells l hnew).update hp (fun _ => List.mem_append_left _) _
    · have hmade : l ∈ linksMade w.daemon (powerOn w.daemon uid pid notifier a).state :=
        List.mem_filter.2 ⟨hl, by simpa using hnew⟩
      have hpid := mPid_of_linksMade w.daemon uid pid notifier a l hmade
      left
      rw [hpid]
      exact ⟨_, Function.update_self pid _ w.live, List.mem_append_right _ hmade⟩

/-- A process that powers off keeps the links made for it. -/
theorem noticesSent_powerOff {w : World} (h : NoticesSent w) (uid : Int) (pid : Pid) (a : Answers) :
    NoticesSent (world.next w (.powerOff uid pid a)) := by
  cases hp : w.live pid with
  | none =>
    refine h.congr ?_ ?_ rfl
    · simp only [world, World.daemonAfter, World.given, hp, Option.map_none]
    · simp only [world, World.liveAfter, hp]
  | some p =>
    have hnext : world.next w (.powerOff uid pid a) =
        { daemon := (handle w.daemon (.powerOff uid pid) a).state
          live := Function.update w.live pid (some { p with offs := p.offs + 1 })
          notices := w.notices } := by
      simp only [world, World.daemonAfter, World.given, World.liveAfter, World.noticesAfter, hp, Option.map_some]
    rw [hnext]
    refine ⟨storedInv_step h.stored (.powerOff uid pid) a, fun l hl => ?_⟩
    have htells := h.tells l (handle_links_subset a (by simp) l hl)
    exact htells.update (r := { p with offs := p.offs + 1 }) hp (fun _ hm => hm) _

/-- A process that starts has no links yet. -/
theorem noticesSent_start {w : World} (h : NoticesSent w) (pid : Pid) : NoticesSent (world.next w (.start pid)) := by
  cases hp : w.live pid with
  | some p => exact h.congr rfl (by simp only [world, World.liveAfter, hp]) rfl
  | none =>
    refine ⟨h.stored, fun l hl => ?_⟩
    rcases h.tells l hl with ⟨q, hq, hmem⟩ | hn
    · left
      have hpid : l.2.mPid ≠ pid := by
        intro hpid
        rw [hpid, hp] at hq
        cases hq
      refine ⟨q, ?_, hmem⟩
      simp only [world, World.liveAfter, hp]
      rw [Function.update_of_ne hpid, hq]
    · exact Or.inr hn

/-- A process that dies with a link in place leaves the notice of it in flight. -/
theorem noticesSent_die {w : World} (h : NoticesSent w) (pid : Pid) : NoticesSent (world.next w (.die pid)) := by
  refine ⟨h.stored, fun l hl => ?_⟩
  have hkept : ∀ n ∈ w.notices, n ∈ w.noticesAfter (.die pid) := by
    intro n hn
    simp only [World.noticesAfter]
    split
    · exact hn
    · exact List.mem_append_left _ hn
  rcases h.tells l hl with ⟨q, hq, hmem⟩ | hn
  · by_cases hpid : l.2.mPid = pid
    · right
      rw [hpid] at hq
      have hsent : w.noticesAfter (.die pid) = w.notices ++ q.dying w.daemon := by simp only [World.noticesAfter, hq]
      have hdying : l.2 ∈ q.dying w.daemon := List.mem_map.2 ⟨l, List.mem_filter.2 ⟨hmem, decide_eq_true hl⟩, rfl⟩
      have hnotice : l.2 ∈ w.noticesAfter (.die pid) := by
        rw [hsent]
        exact List.mem_append_right _ hdying
      exact hnotice
    · have hlive : (world.next w (.die pid)).live l.2.mPid = w.live l.2.mPid := by
        simp only [world, World.liveAfter, Function.update_of_ne hpid]
      exact Or.inl ⟨q, hlive.trans hq, hmem⟩
  · exact Or.inr (hkept l.2 hn)

/-- A notice that is delivered takes the link of its notifier away with the entry; the others keep theirs in flight. -/
theorem noticesSent_notice {w : World} (h : NoticesSent w) (n : ClientDiedNotifier) (a : Answers) :
    NoticesSent (world.next w (.notice n a)) := by
  by_cases hn : n ∈ w.notices
  · have hd : (world.next w (.notice n a)).daemon = w.daemon.unregister n.mPid := by
      simp only [world, World.daemonAfter, World.given, if_pos hn, handle_binderDied, binderDied_eq]
    refine ⟨?_, fun l hl => ?_⟩
    · have hkey := storedInv_step h.stored (.binderDied n.mPid) a
      rw [handle_binderDied, binderDied_eq] at hkey
      rw [hd]
      exact hkey
    · rw [hd] at hl
      have hgone : l.2 ≠ n := by
        rintro rfl
        obtain ⟨d, hd', -⟩ := h.stored.unregister l.2.mPid l hl
        simp at hd'
      rcases h.tells l ((unregister_sublist _ _).subset hl) with hp | hn'
      · exact Or.inl hp
      · exact Or.inr ((List.mem_erase_of_ne hgone).2 hn')
  · refine h.congr ?_ rfl (List.erase_of_not_mem hn)
    simp only [world, World.daemonAfter, World.given, if_neg hn]

/-- A notice that lapses is of a notifier without a link. -/
theorem noticesSent_lapse {w : World} (h : NoticesSent w) (n : ClientDiedNotifier) : NoticesSent (world.next w (.lapse n)) := by
  refine ⟨h.stored, fun l hl => ?_⟩
  rcases h.tells l hl with hp | hn
  · exact Or.inl hp
  · right
    have hnotice : l.2 ∈ w.noticesAfter (.lapse n) := by
      simp only [World.noticesAfter]
      split
      · exact hn
      · rename_i hnone
        refine (List.mem_erase_of_ne ?_).2 hn
        rintro rfl
        exact hnone (List.mem_map.2 ⟨l, hl, rfl⟩)
    exact hnotice

/-- Every incident keeps the invariant, whatever the world answers. -/
theorem noticesSent_step {st : Site} (h : NoticesSent st.world) (i : Incident) : NoticesSent (site.next st i).world := by
  cases i with
  | event e =>
    have hkey : NoticesSent (world.next st.world (e.withWord st.word)) := by
      cases e.withWord st.word with
      | start pid => exact noticesSent_start h pid
      | powerOn uid pid notifier a => exact noticesSent_powerOn h uid pid notifier a
      | powerOff uid pid a => exact noticesSent_powerOff h uid pid a
      | die pid => exact noticesSent_die h pid
      | notice n a => exact noticesSent_notice h n a
      | lapse n => exact noticesSent_lapse h n
    exact hkey
  | killall uid a => exact noticesSent_handled h _ (by simp)
  | getState a => exact noticesSent_handled h _ (by simp)
  | geteSEBindingStatus a => exact noticesSent_handled h _ (by simp)
  | restart => exact noticesSent_restarted st.world

/-! ## Registrations that have lost their link -/

/-- In the incident, the daemon serves a `powerOff` of the pid that releases one of several holds. -/
def Site.ReleasesHold (st : Site) (pid : Pid) (i : Incident) : Prop :=
  ∃ x, st.given i = some x ∧ EseManager.ReleasesHold st.world.daemon pid x.1

/-- In a run, a `powerOff` has released one of several holds of the pid, which has stayed registered since. -/
def LeftRegistered (st : Site) (is : List Incident) (pid : Pid) : Prop :=
  site.Since (fun st i => st.ReleasesHold pid i) (fun st => pid ∈ st.world.daemon.pidsMap) st is

/-- What every incident does to the link of a pid is what the handler does, if the daemon is given anything; and a new daemon has
nobody registered. -/
theorem linkedAt_incident {st : Site} (h : StoredInv st.world.daemon) (pid : Pid) (i : Incident) :
    LinkedAt (site.next st i).world.daemon pid ↔
      pid ∈ (site.next st i).world.daemon.pidsMap ∧
        (pid ∈ st.world.daemon.pidsMap → LinkedAt st.world.daemon pid ∧ ¬st.ReleasesHold pid i) := by
  by_cases hi : i = .restart
  · subst hi
    exact linkedAt_gone (s := State.init) (by simp [State.init])
  · rw [site_daemon st hi]
    unfold Site.ReleasesHold
    cases hg : st.given i with
    | none =>
      simp only [reduceCtorEq, false_and, exists_false, not_false_eq_true, and_true]
      exact ⟨fun hl => ⟨hl.registered, fun _ => hl⟩, fun hl => hl.2 hl.1⟩
    | some x =>
      simp only [Option.some.injEq, exists_eq_left']
      exact linkedAt_step h pid x.1 x.2

theorem linkedAt_site_iff (word : BitVec 32) (is : List Incident) (pid : Pid) :
    LinkedAt (site.run (Site.init word) is).world.daemon pid ↔
      pid ∈ (site.run (Site.init word) is).world.daemon.pidsMap ∧ ¬LeftRegistered (Site.init word) is pid := by
  have hkeeps : ∀ (st : Site) i, NoticesSent st.world → NoticesSent (site.next st i).world := fun st i h => noticesSent_step h i
  have hreleases : ∀ (st : Site) (i : Incident), st.ReleasesHold pid i → pid ∈ st.world.daemon.pidsMap := by
    rintro st i ⟨x, -, h⟩
    exact h.registered
  exact Machine.iff_not_since (L := fun st => LinkedAt st.world.daemon pid) (J := fun st => NoticesSent st.world) hkeeps hreleases
    (fun st i h => linkedAt_incident h.stored pid i) (s := Site.init word) noticesSent_init (linkedAt_init pid) is

/-- The link of the pid is in place, and its process lives or the notice of its death is in flight. -/
def World.Guarded (w : World) (pid : Pid) : Prop := ∃ l ∈ w.daemon.links, l.2.mPid = pid ∧ w.Tells l

/-- After every run, whatever has failed on the way, however late the notices came, whoever got the pids of the dead, and however often
the daemon was restarted: a registered pid has its live process linked, or the notice of its death in flight, exactly when it has not
lost its link by the release of one of several holds. Once nobody lives and no notice is in flight, exactly those pids are registered
that have. -/
theorem quiescent_registered_iff (word : BitVec 32) (is : List Incident) :
    let st := site.run (Site.init word) is
    (∀ pid ∈ st.world.daemon.pidsMap, st.world.Guarded pid ↔ ¬LeftRegistered (Site.init word) is pid) ∧
      (st.Quiescent → ∀ pid, pid ∈ st.world.daemon.pidsMap ↔ LeftRegistered (Site.init word) is pid) := by
  intro st
  have hkeeps : ∀ (t : Site) i, NoticesSent t.world → NoticesSent (site.next t i).world := fun t i h => noticesSent_step h i
  have hinv : NoticesSent st.world := Machine.run_keeps (I := fun t : Site => NoticesSent t.world) hkeeps noticesSent_init is
  have hguarded : ∀ pid ∈ st.world.daemon.pidsMap,
      st.world.Guarded pid ↔ ¬LeftRegistered (Site.init word) is pid := by
    intro pid hpid
    have hiff := linkedAt_site_iff word is pid
    constructor
    · rintro ⟨l, hl, rfl, -⟩
      exact (hiff.1 ⟨l, hl, hinv.stored.stored l hl⟩).2
    · intro hkept
      obtain ⟨l, hl, hstored⟩ := hiff.2 ⟨hpid, hkept⟩
      exact ⟨l, hl, hinv.stored.mPid_of_storedLink hstored, hinv.tells l hl⟩
  refine ⟨hguarded, fun hq pid => ⟨fun hpid => ?_, fun hleft => hleft.holds⟩⟩
  by_contra hkept
  obtain ⟨hdead, hnone⟩ := hq
  obtain ⟨l, -, -, ⟨p, hp, -⟩ | hn⟩ := (hguarded pid hpid).2 hkept
  · rw [hdead] at hp
    cases hp
  · rw [hnone] at hn
    cases hn

/-- Two threads of a process power the eSE on, one powers it off, and the process dies. -/
def oneThreadLeft : List Incident :=
  [.event (.start 5), .event (.powerOn 1000 5 (some 1) working), .event (.powerOn 1000 5 (some 2) working),
    .event (.powerOff 1000 5 working), .event (.die 5)]

/-- Nobody is told of the death: nobody is left, and the pid is registered for good. -/
theorem quiescent_registered_oneThreadLeft :
    let st := site.run (Site.init 0x100#32) oneThreadLeft
    st.Quiescent ∧ 5 ∈ st.world.daemon.pidsMap ∧ LeftRegistered (Site.init 0x100#32) oneThreadLeft 5 := by
  intro st
  have hdead : st.Quiescent := by
    refine ⟨fun pid => ?_, by decide⟩
    simp [st, oneThreadLeft, site, worldAfter, Event.withWord, world, World.liveAfter, Site.init, World.init]
  have hreg : 5 ∈ st.world.daemon.pidsMap := by decide
  obtain ⟨-, hquiet⟩ := quiescent_registered_iff 0x100#32 oneThreadLeft
  exact ⟨hdead, hreg, (hquiet hdead 5).1 hreg⟩

end EseManager
