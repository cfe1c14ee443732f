import EseManager.Theorems.DeathLinks
import Mathlib.Data.List.Count

/-!
# What is left of a cover

Binder refers to notifiers weakly, and of all the notifiers that the requests of a process make only the one that its entry stores
lasts. So a pid has at most one death link, whatever its thread count, and once a `powerOff` has unlinked it while holds are left, the
pid stays without one for as long as it stays registered: the notifiers of later `powerOn` requests are not stored
(`registered_linked_iff`).
-/

namespace EseManager

/-! ## Stored notifiers -/

/-- The notifier of an entry, if it has a link to unlink, was made for the pid of the entry. -/
def OwnNotifier (pid : Pid) (d : ServiceData) : Prop := ∀ l, d.link? = some l → l.2.mPid = pid

/-- Every stored notifier was made for the pid it is stored under. -/
def OwnNotifiers (s : State) : Prop := ∀ pid d, s.pidsMap[pid]? = some d → OwnNotifier pid d

/-- The entry of the pid has the link. -/
def StoredLink (s : State) (pid : Pid) (l : Link) : Prop := ∃ d, s.pidsMap[pid]? = some d ∧ d.link? = some l

/-- Every link in place is that of the entry of its pid. -/
def LinksStored (s : State) : Prop := ∀ l ∈ s.links, StoredLink s l.2.mPid l

/-- Links are made once, and a link in place is that of the entry of its pid. -/
structure StoredInv (s : State) : Prop where
  links : LinksInv s
  own : OwnNotifiers s
  stored : LinksStored s

/-- A hold of one pid leaves the entries of the others. -/
theorem getElem?_addHold_of_ne (m : PidsMap) {pid q : Pid} (h : q ≠ pid) (data : ServiceData) :
    (m.addHold pid data)[q]? = m[q]? := by
  unfold PidsMap.addHold
  split <;> simp [Std.ExtTreeMap.getElem?_insert, Ne.symm h]

/-- What is registered for a pid after a hold more: its data as it was with the count one up, or the new data with one hold. -/
theorem getElem?_addHold_self (m : PidsMap) (pid : Pid) (data : ServiceData) :
    (m.addHold pid data)[pid]? = some (match m[pid]? with
      | none => { data with clientThreadCount := 1 }
      | some d => { d with clientThreadCount := d.clientThreadCount + 1 }) := by
  unfold PidsMap.addHold
  cases hm : m[pid]? <;> simp

/-- A registration stores the notifier of its pid. -/
theorem OwnNotifiers.registered {s : State} (h : OwnNotifiers s) (pid : Pid) (cb : Binder) :
    OwnNotifiers (registered s pid cb) := by
  intro q d hd l hl
  by_cases hq : q = pid
  · subst hq
    simp only [EseManager.registered, getElem?_addHold_self, Option.some.injEq] at hd
    subst hd
    cases hm : s.pidsMap[q]? with
    | none =>
      simp only [hm, ServiceData.link?, Option.some.injEq] at hl
      rw [← hl]
      rfl
    | some d' =>
      rw [hm] at hl
      exact h q d' hm l hl
  · simp only [EseManager.registered, getElem?_addHold_of_ne s.pidsMap hq] at hd
    exact h q d hd l hl

/-- Counting down stores none. -/
theorem OwnNotifiers.countedDown {s : State} (h : OwnNotifiers s) {pid : Pid} {d : ServiceData}
    (hm : s.pidsMap[pid]? = some d) : OwnNotifiers (countedDown s pid d) := by
  intro q e he l hl
  simp only [EseManager.countedDown, Std.ExtTreeMap.getElem?_insert] at he
  by_cases hq : q = pid
  · subst hq
    simp only [Std.compare_self, if_true, Option.some.injEq] at he
    subst he
    exact h q d hm l hl
  · simp only [Std.LawfulEqOrd.compare_eq_iff_eq, Ne.symm hq, if_false] at he
    exact h q e he l hl

/-- Erasing registrations keeps the invariant. -/
theorem OwnNotifiers.erase {s s' : State} (h : OwnNotifiers s) {pid : Pid} (hm : s'.pidsMap = s.pidsMap.erase pid) :
    OwnNotifiers s' := by
  intro q e he
  rw [hm, Std.ExtTreeMap.getElem?_erase] at he
  split at he
  · cases he
  · exact h q e he

theorem OwnNotifiers.congr {s s' : State} (h : OwnNotifiers s) (hm : s'.pidsMap = s.pidsMap) : OwnNotifiers s' := by
  intro q e he
  rw [hm] at he
  exact h q e he

/-- Every handler keeps the invariant, whatever the world answers. -/
theorem ownNotifiers_step {s : State} (h : OwnNotifiers s) (r : Request) (a : Answers) :
    OwnNotifiers (handle s r a).state := by
  cases handle_clients s r a with
  | kept _ hs => exact h.congr hs.pidsMap
  | acquired pid cb _ hs => exact (h.registered pid cb).congr hs.pidsMap
  | absent _ _ _ hs => exact h.congr hs.pidsMap
  | oneOfSeveral pid d _ hm _ hs => exact (h.countedDown hm).congr hs.pidsMap
  | lastOne pid d _ _ _ hs =>
    have hm := hs.pidsMap
    exact h.erase hm
  | cleared _ hm =>
    intro q e he
    rw [hm] at he
    simp at he
  | erased pid _ hs => exact h.erase hs.pidsMap

/-- The link of the entry of one pid is not that of another. -/
theorem mem_linksWithout_of_ne {s : State} (h : OwnNotifiers s) {pid : Pid} {d : ServiceData} (hm : s.pidsMap[pid]? = some d)
    {l : Link} (hl : l.2.mPid ≠ pid) : l ∈ linksWithout s d ↔ l ∈ s.links := by
  unfold linksWithout
  cases hd : d.link? with
  | none => exact Iff.rfl
  | some l' =>
    refine List.mem_erase_of_ne ?_
    rintro rfl
    exact hl (h pid d hm l hd)

/-- The link of an entry is gone once it is taken away. -/
theorem StoredInv.not_mem_linksWithout {s : State} (h : StoredInv s) {pid : Pid} {d : ServiceData} (hm : s.pidsMap[pid]? = some d)
    {l : Link} (hl : l.2.mPid = pid) : l ∉ linksWithout s d := by
  intro hmem
  obtain ⟨d', hm', hd⟩ := h.stored l ((linksWithout_sublist s d).subset hmem)
  rw [hl, hm, Option.some.injEq] at hm'
  subst hm'
  simp only [linksWithout, hd] at hmem
  exact h.links.nodup.not_mem_erase hmem

/-- The entries and links are those of another state. -/
theorem LinksStored.congr {s s' : State} (h : LinksStored s) (hs : SameClients s s') : LinksStored s' := by
  intro l hl
  rw [hs.links] at hl
  unfold StoredLink
  rw [hs.pidsMap]
  exact h l hl

/-- After a registration the links in place are stored. -/
theorem StoredInv.registered {s : State} (h : StoredInv s) (pid : Pid) (cb : Binder) : LinksStored (registered s pid cb) := by
  intro l hl
  unfold StoredLink
  rcases mem_linksWith_iff.1 hl with hl | ⟨hm, rfl⟩
  · obtain ⟨d, hd, hlink⟩ := h.stored l hl
    by_cases hq : l.2.mPid = pid
    · rw [hq] at hd ⊢
      exact ⟨_, getElem?_addHold_self s.pidsMap pid _, by rw [hd]; exact hlink⟩
    · exact ⟨d, (getElem?_addHold_of_ne s.pidsMap hq _).trans hd, hlink⟩
  · exact ⟨_, getElem?_addHold_self s.pidsMap pid _, by rw [hm]; rfl⟩

/-- They are after counting down, -/
theorem StoredInv.countedDown {s : State} (h : StoredInv s) {pid : Pid} {d : ServiceData} (hm : s.pidsMap[pid]? = some d) :
    LinksStored (countedDown s pid d) := by
  intro l hl
  have hne : l.2.mPid ≠ pid := fun hq => h.not_mem_linksWithout hm hq hl
  obtain ⟨d', hd', hlink⟩ := h.stored l ((linksWithout_sublist s d).subset hl)
  exact ⟨d', by simp [EseManager.countedDown, Std.ExtTreeMap.getElem?_insert, Ne.symm hne, hd'], hlink⟩

/-- after the release of the last hold, -/
theorem StoredInv.released {s : State} (h : StoredInv s) {pid : Pid} {d : ServiceData} (hm : s.pidsMap[pid]? = some d) :
    LinksStored (released s pid d) := by
  intro l hl
  have hne : l.2.mPid ≠ pid := fun hq => h.not_mem_linksWithout hm hq hl
  obtain ⟨d', hd', hlink⟩ := h.stored l ((linksWithout_sublist s d).subset hl)
  exact ⟨d', by simp [EseManager.released, Std.ExtTreeMap.getElem?_erase, Ne.symm hne, hd'], hlink⟩

/-- and after a death. -/
theorem StoredInv.unregister {s : State} (h : StoredInv s) (pid : Pid) : LinksStored (s.unregister pid) := by
  cases hm : s.pidsMap[pid]? with
  | some d => exact (h.released hm).congr ⟨rfl, unregister_links_of_some hm, Nat.le_refl _⟩
  | none =>
    intro l hl
    rw [unregister_links_of_none hm] at hl
    obtain ⟨d, hd, hlink⟩ := h.stored l hl
    have hne : pid ≠ l.2.mPid := by
      rintro rfl
      rw [hm] at hd
      cases hd
    exact ⟨d, by simp [Std.ExtTreeMap.getElem?_erase, hne, hd], hlink⟩

/-- Every handler keeps the invariant, whatever the world answers. -/
theorem storedInv_step {s : State} (h : StoredInv s) (r : Request) (a : Answers) : StoredInv (handle s r a).state := by
  refine ⟨linksInv_step h.links r a, ownNotifiers_step h.own r a, ?_⟩
  cases handle_clients s r a with
  | kept _ hs => exact h.stored.congr hs
  | acquired pid cb _ hs => exact (h.registered pid cb).congr hs
  | absent _ _ _ hs => exact h.stored.congr hs
  | oneOfSeveral pid d _ hm _ hs => exact (h.countedDown hm).congr hs
  | lastOne pid d _ hm _ hs => exact (h.released hm).congr hs
  | cleared _ _ hl =>
    intro l hmem
    rw [hl] at hmem
    cases hmem
  | erased pid _ hs => exact (h.unregister pid).congr hs

theorem StoredInv.init : StoredInv State.init := by
  refine ⟨⟨fun l hl => ?_, List.nodup_nil⟩, fun pid d hd => ?_, fun l hl => ?_⟩
  · cases hl
  · simp [State.init] at hd
  · cases hl

/-! ## The link of a pid -/

/-- The pid is registered, and the link of its entry is in place. -/
def LinkedAt (s : State) (pid : Pid) : Prop := ∃ l ∈ s.links, StoredLink s pid l

/-- A `powerOff` of the pid that releases one of several holds. -/
def ReleasesHold (s : State) (pid : Pid) (r : Request) : Prop := ∃ uid, r = .powerOff uid pid ∧ ReleasesOneOfSeveral s r

/-- A pid that is linked is registered. -/
theorem LinkedAt.registered {s : State} {pid : Pid} (h : LinkedAt s pid) : pid ∈ s.pidsMap := by
  obtain ⟨l, -, d, hd, -⟩ := h
  rw [Std.ExtTreeMap.mem_iff_isSome_getElem?, hd]
  rfl

/-- A pid whose hold is released is registered. -/
theorem ReleasesHold.registered {s : State} {pid : Pid} {r : Request} (h : ReleasesHold s pid r) : pid ∈ s.pidsMap := by
  obtain ⟨uid, rfl, -, d, hd, -⟩ := h
  rw [Std.ExtTreeMap.mem_iff_isSome_getElem?, hd]
  rfl

/-- The holds of the pid are not released but by an authorised `powerOff` of it. -/
theorem ReleasesHold.holdOp_eq {s : State} {pid : Pid} {r : Request} (h : ReleasesHold s pid r) (ret : Int) :
    holdOp r ret = .release pid := by
  obtain ⟨uid, rfl, hu, -⟩ := h
  exact holdOp_eq_release_iff.2 ⟨uid, rfl, hu⟩

/-- What is known of a pid in two states: it is in the second as it is in the first. -/
theorem linkedAt_same {s s' : State} {pid : Pid} {r : Request} (hentry : s'.pidsMap[pid]? = s.pidsMap[pid]?)
    (hlinks : ∀ l, StoredLink s pid l → (l ∈ s'.links ↔ l ∈ s.links)) (hr : ¬ReleasesHold s pid r) :
    LinkedAt s' pid ↔ pid ∈ s'.pidsMap ∧ (pid ∈ s.pidsMap → LinkedAt s pid ∧ ¬ReleasesHold s pid r) := by
  have hstored : ∀ l, StoredLink s' pid l ↔ StoredLink s pid l := fun l => by rw [StoredLink, StoredLink, hentry]
  have hmem : pid ∈ s'.pidsMap ↔ pid ∈ s.pidsMap := by
    rw [Std.ExtTreeMap.mem_iff_isSome_getElem?, Std.ExtTreeMap.mem_iff_isSome_getElem?, hentry]
  have hsame : LinkedAt s' pid ↔ LinkedAt s pid := by
    refine exists_congr fun l => ?_
    rw [hstored]
    exact and_congr_left (hlinks l)
  rw [hsame, hmem]
  exact ⟨fun h => ⟨h.registered, fun _ => ⟨h, hr⟩⟩, fun h => (h.2 h.1).1⟩

/-- A pid that is not registered has no link. -/
theorem linkedAt_gone {s : State} {pid : Pid} {P : Prop} (hentry : s.pidsMap[pid]? = none) :
    LinkedAt s pid ↔ pid ∈ s.pidsMap ∧ P := by
  have hmem : pid ∉ s.pidsMap := by
    rw [Std.ExtTreeMap.mem_iff_isSome_getElem?, hentry]
    simp
  exact iff_of_false (fun h => hmem h.registered) fun h => hmem h.1

theorem StoredInv.mPid_of_storedLink {s : State} (h : StoredInv s) {pid : Pid} {l : Link} (hl : StoredLink s pid l) :
    l.2.mPid = pid := by
  obtain ⟨d, hd, hlink⟩ := hl
  exact h.own pid d hd l hlink

/-- A `powerOn` of the pid links a notifier that its entry stores if it is the first, and leaves the link as it was otherwise. -/
theorem linkedAt_registered {s : State} (h : StoredInv s) (pid q : Pid) (cb : Binder) {r : Request} (hr : ¬ReleasesHold s pid r) :
    LinkedAt (registered s q cb) pid ↔
      pid ∈ (registered s q cb).pidsMap ∧ (pid ∈ s.pidsMap → LinkedAt s pid ∧ ¬ReleasesHold s pid r) := by
  by_cases hq : pid = q
  · subst hq
    cases hm : s.pidsMap[pid]? with
    | none =>
      have hnot : pid ∉ s.pidsMap := by
        rw [Std.ExtTreeMap.mem_iff_isSome_getElem?, hm]
        simp
      have hlinked : LinkedAt (registered s pid cb) pid := by
        refine ⟨(cb, newNotifier s pid), mem_linksWith_iff.2 (Or.inr ⟨hm, rfl⟩), _, getElem?_addHold_self s.pidsMap pid _, ?_⟩
        rw [hm]
        rfl
      exact iff_of_true hlinked ⟨hlinked.registered, fun hmem => absurd hmem hnot⟩
    | some d =>
      have hmem : pid ∈ s.pidsMap := by
        rw [Std.ExtTreeMap.mem_iff_isSome_getElem?, hm]
        rfl
      have hentry : (registered s pid cb).pidsMap[pid]? = some { d with clientThreadCount := d.clientThreadCount + 1 } := by
        simp only [registered, getElem?_addHold_self, hm]
      have hmem' : pid ∈ (registered s pid cb).pidsMap := by
        rw [Std.ExtTreeMap.mem_iff_isSome_getElem?, hentry]
        rfl
      have hsame : LinkedAt (registered s pid cb) pid ↔ LinkedAt s pid := by
        refine exists_congr fun l => ?_
        rw [show (registered s pid cb).links = s.links from linksWith_of_some hm _]
        refine and_congr_right fun _ => ?_
        rw [StoredLink, StoredLink, hentry, hm]
        simp [ServiceData.link?]
      rw [hsame]
      exact ⟨fun hl => ⟨hmem', fun _ => ⟨hl, hr⟩⟩, fun hl => (hl.2 hmem).1⟩
  · refine linkedAt_same (getElem?_addHold_of_ne s.pidsMap hq _) (fun l hl => ?_) hr
    have hpid := h.mPid_of_storedLink hl
    refine ⟨fun hmem => (mem_linksWith_iff.1 hmem).resolve_right ?_, fun hmem => mem_linksWith hmem q _⟩
    rintro ⟨-, rfl⟩
    exact hq hpid.symm

/-- After a `powerOff` that its caller's registration survives, the caller has no link. -/
theorem linkedAt_countedDown {s : State} (h : StoredInv s) (pid : Pid) {q : Pid} {d : ServiceData} (hm : s.pidsMap[q]? = some d)
    {r : Request} (hr : ReleasesHold s pid r ↔ q = pid) :
    LinkedAt (countedDown s q d) pid ↔
      pid ∈ (countedDown s q d).pidsMap ∧ (pid ∈ s.pidsMap → LinkedAt s pid ∧ ¬ReleasesHold s pid r) := by
  by_cases hq : q = pid
  · subst hq
    have hrel := hr.2 rfl
    refine iff_of_false ?_ fun hl => (hl.2 hrel.registered).2 hrel
    rintro ⟨l, hl, d', hd', hlink⟩
    simp only [countedDown, Std.ExtTreeMap.getElem?_insert_self, Option.some.injEq] at hd'
    subst hd'
    have hpid := h.own q d hm l hlink
    exact h.not_mem_linksWithout hm hpid hl
  · refine linkedAt_same (by simp [countedDown, Std.ExtTreeMap.getElem?_insert, hq]) (fun l hl => ?_) fun hrel => hq (hr.1 hrel)
    exact mem_linksWithout_of_ne h.own hm (by rw [h.mPid_of_storedLink hl]; exact Ne.symm hq)

/-- The erasure of another pid leaves the link of a pid as it was. -/
theorem linkedAt_unregister {s : State} (h : StoredInv s) (pid q : Pid) {r : Request} (hr : ¬ReleasesHold s pid r) :
    LinkedAt (s.unregister q) pid ↔
      pid ∈ (s.unregister q).pidsMap ∧ (pid ∈ s.pidsMap → LinkedAt s pid ∧ ¬ReleasesHold s pid r) := by
  by_cases hq : q = pid
  · subst hq
    exact linkedAt_gone (by simp)
  · refine linkedAt_same (by simp [Std.ExtTreeMap.getElem?_erase, hq]) (fun l hl => ?_) hr
    cases hm : s.pidsMap[q]? with
    | none => rw [unregister_links_of_none hm]
    | some d =>
      rw [unregister_links_of_some hm]
      exact mem_linksWithout_of_ne h.own hm (by rw [h.mPid_of_storedLink hl]; exact Ne.symm hq)

/-- The links of a state are those of its map and links. -/
theorem linkedAt_congr {s s' : State} (hs : SameClients s s') (pid : Pid) : LinkedAt s' pid ↔ LinkedAt s pid := by
  unfold LinkedAt StoredLink
  rw [hs.pidsMap, hs.links]

/-- What every handler does to the link of a pid: it has one when it is registered, if it was not registered before or had one and
does not release one of several holds. -/
theorem linkedAt_step {s : State} (h : StoredInv s) (pid : Pid) (r : Request) (a : Answers) :
    LinkedAt (handle s r a).state pid ↔
      pid ∈ (handle s r a).state.pidsMap ∧ (pid ∈ s.pidsMap → LinkedAt s pid ∧ ¬ReleasesHold s pid r) := by
  have hother : ∀ op, holdOp r (handle s r a).ret = op → op ≠ .release pid → ¬ReleasesHold s pid r := by
    rintro op hop hne hrel
    exact hne (hop.symm.trans (hrel.holdOp_eq _))
  cases handle_clients s r a with
  | kept hop hs => exact linkedAt_same (by rw [hs.pidsMap]) (fun l _ => by rw [hs.links]) (hother _ hop (by simp))
  | acquired q cb hop hs =>
    rw [linkedAt_congr hs, hs.pidsMap]
    exact linkedAt_registered h pid q cb (hother _ hop (by simp))
  | absent q hop hm hs =>
    refine linkedAt_same (by rw [hs.pidsMap]) (fun l _ => by rw [hs.links]) fun hrel => ?_
    have hq := hop.symm.trans (hrel.holdOp_eq _)
    have hmem := hrel.registered
    simp only [HoldOp.release.injEq] at hq
    rw [Std.ExtTreeMap.mem_iff_isSome_getElem?, ← hq, hm] at hmem
    cases hmem
  | oneOfSeveral q d hop hm hc hs =>
    rw [linkedAt_congr hs, hs.pidsMap]
    refine linkedAt_countedDown h pid hm ⟨fun hrel => ?_, fun hq => ?_⟩
    · simpa using hop.symm.trans (hrel.holdOp_eq _)
    · subst hq
      obtain ⟨uid, rfl, hu⟩ := holdOp_eq_release_iff.1 hop
      exact ⟨uid, rfl, hu, d, hm, hc⟩
  | lastOne q d hop hm hc hs =>
    have hsame : SameClients (s.unregister q) (released s q d) := ⟨rfl, (unregister_links_of_some hm).symm, Nat.le_refl _⟩
    rw [linkedAt_congr hs, hs.pidsMap, linkedAt_congr hsame, hsame.pidsMap]
    refine linkedAt_unregister h pid q fun hrel => ?_
    have hq := hop.symm.trans (hrel.holdOp_eq _)
    obtain ⟨uid, rfl, hu, d', hm', hc'⟩ := hrel
    simp only [HoldOp.release.injEq] at hq
    subst hq
    rw [hm, Option.some.injEq] at hm'
    subst hm'
    exact hc hc'
  | cleared hop hm => exact linkedAt_gone (by rw [hm]; simp)
  | erased q hop hs =>
    rw [linkedAt_congr hs, hs.pidsMap]
    exact linkedAt_unregister h pid q (hother _ hop (by simp))

/-! ## Runs of the daemon -/

/-- The number of links in place of notifiers made for a pid. -/
def linksFor (s : State) (pid : Pid) : Nat := s.links.countP fun l => l.2.mPid == pid

/-- A pid has one link or none: that of its entry. -/
theorem StoredInv.linksFor_eq {s : State} (h : StoredInv s) (pid : Pid) :
    (LinkedAt s pid ∧ linksFor s pid = 1) ∨ (¬LinkedAt s pid ∧ linksFor s pid = 0) := by
  by_cases hl : LinkedAt s pid
  · left
    refine ⟨hl, ?_⟩
    obtain ⟨l, hl, d, hd, hlink⟩ := hl
    have hone : linksFor s pid = s.links.count l := by
      refine List.countP_congr fun l' hl' => ?_
      rw [beq_iff_eq, beq_iff_eq]
      constructor
      · intro hpid
        obtain ⟨d', hd', hlink'⟩ := h.stored l' hl'
        rw [hpid, hd, Option.some.injEq] at hd'
        subst hd'
        exact Option.some.inj (hlink'.symm.trans hlink)
      · rintro rfl
        exact h.own pid d hd l' hlink
    rw [hone]
    exact List.count_eq_one_of_mem h.links.nodup hl
  · right
    refine ⟨hl, List.countP_eq_zero.2 fun l hmem hpid => hl ⟨l, hmem, ?_⟩⟩
    rw [← beq_iff_eq.1 hpid]
    exact h.stored l hmem

/-- At the start nobody is registered. -/
theorem linkedAt_init (pid : Pid) : LinkedAt State.init pid ↔ pid ∈ State.init.pidsMap := by
  have hnot : pid ∉ State.init.pidsMap := by simp [State.init]
  exact iff_of_false (fun h => hnot h.registered) hnot

/-- In a run, a `powerOff` has released one of several holds of the pid, which has stayed registered since. -/
def LostLink (xs : List (Request × Answers)) (pid : Pid) : Prop :=
  daemon.Since (fun s x => ReleasesHold s pid x.1) (fun s => pid ∈ s.pidsMap) State.init xs

/-- In a run a registered pid is linked as long as it has not lost its link. -/
theorem linkedAt_run_iff (xs : List (Request × Answers)) (pid : Pid) :
    LinkedAt (daemon.run State.init xs) pid ↔ pid ∈ (daemon.run State.init xs).pidsMap ∧ ¬LostLink xs pid := by
  have hkeeps : ∀ s x, StoredInv s → StoredInv (daemon.next s x) := fun s x h => storedInv_step h x.1 x.2
  have hreleases : ∀ (s : State) (x : Request × Answers), ReleasesHold s pid x.1 → pid ∈ s.pidsMap := fun s x h => h.registered
  have hstep : ∀ s x, StoredInv s → (LinkedAt (daemon.next s x) pid ↔
      pid ∈ (daemon.next s x).pidsMap ∧ (pid ∈ s.pidsMap → LinkedAt s pid ∧ ¬ReleasesHold s pid x.1)) :=
    fun s x h => linkedAt_step h pid x.1 x.2
  exact Machine.iff_not_since (L := fun s => LinkedAt s pid) hkeeps hreleases hstep StoredInv.init (linkedAt_init pid) xs

/-- After every run of the daemon, whatever the requests, the notices and the answers of the world: a death link in place is that of
the notifier that the entry of its pid stores, no pid has two, and a pid has one exactly when it is registered and has not lost it by
the release of one of several holds. -/
theorem registered_linked_iff (xs : List (Request × Answers)) :
    let s := daemon.run State.init xs
    (∀ l ∈ s.links, ∃ d, s.pidsMap[l.2.mPid]? = some d ∧ d.link? = some l) ∧
      ∀ pid, linksFor s pid ≤ 1 ∧ (linksFor s pid = 1 ↔ pid ∈ s.pidsMap ∧ ¬LostLink xs pid) := by
  intro s
  have hkeeps : ∀ t x, StoredInv t → StoredInv (daemon.next t x) := fun t x h => storedInv_step h x.1 x.2
  have hinv : StoredInv s := Machine.run_keeps hkeeps StoredInv.init xs
  refine ⟨hinv.stored, fun pid => ?_⟩
  have hiff := linkedAt_run_iff xs pid
  rcases hinv.linksFor_eq pid with ⟨hl, hcount⟩ | ⟨hl, hcount⟩
  · exact ⟨hcount.le, iff_of_true hcount (hiff.1 hl)⟩
  · rw [hcount]
    exact ⟨Nat.zero_le 1, iff_of_false Nat.zero_ne_one fun h => hl (hiff.2 h)⟩

end EseManager
