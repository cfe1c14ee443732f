import EseManager.Device
import EseManager.Registrations
import Mathlib.Data.List.Nodup

/-!
# Registrations and their death links

A registration goes away with its process because a notifier is linked on the callback that the entry stores. Every `powerOn`
links a new notifier, but only the first of a pid is stored, so that the others do not last, and every `powerOff` unlinks the stored
one. So a pid stays covered exactly until it releases one hold of several: `covered_always_iff`.
-/

namespace EseManager

/-- Every registered pid has its stored notifier, which was made for this pid, linked on its stored callback. -/
def Covered (s : State) : Prop :=
  ∀ pid d, s.pidsMap[pid]? = some d →
    ∃ cb n, d.lServiceCb = some cb ∧ d.lDeathNotifier = some n ∧ n.mPid = pid ∧ (cb, n) ∈ s.links

/-- A `powerOff` that its caller's registration survives: it is authorised, and the thread count stays positive. -/
def ReleasesOneOfSeveral (s : State) : Request → Prop
  | .powerOff uid pid => uidAllowed uid = true ∧ ∃ d, s.pidsMap[pid]? = some d ∧ d.clientThreadCount - 1 > 0
  | _ => False

/-- Every link is of a notifier made earlier, and no notifier is linked twice on one callback. -/
structure LinksInv (s : State) : Prop where
  made : ∀ l ∈ s.links, l.2.addr < s.allocs
  nodup : s.links.Nodup

/-! ## Links are made once -/

/-- Taking links away and making notifiers keeps the invariant. -/
theorem LinksInv.of_sublist {s s' : State} (h : LinksInv s) (hl : s'.links.Sublist s.links)
    (ha : s.allocs ≤ s'.allocs) : LinksInv s' := by
  refine ⟨fun l hm => ?_, h.nodup.sublist hl⟩
  exact Nat.lt_of_lt_of_le (h.made l (hl.subset hm)) ha

/-- The notifier that `powerOn` links is new. -/
theorem LinksInv.registered {s : State} (h : LinksInv s) (pid : Pid) (cb : Binder) :
    LinksInv (registered s pid cb) := by
  cases hm : s.pidsMap[pid]? with
  | some d => exact h.of_sublist (by simp [EseManager.registered, linksWith_of_some hm]) (Nat.le_succ _)
  | none =>
    have hlinks : (EseManager.registered s pid cb).links = s.links ++ [(cb, newNotifier s pid)] := linksWith_of_none hm _
    constructor
    · intro l hl
      rw [hlinks] at hl
      rcases List.mem_append.1 hl with hl | hl
      · exact Nat.lt_succ_of_lt (h.made l hl)
      · rw [List.mem_singleton.1 hl]
        exact Nat.lt_succ_self s.allocs
    · rw [hlinks]
      refine List.Nodup.append h.nodup (List.nodup_singleton _) ?_
      intro l hl hl'
      have hlt := h.made l hl
      rw [List.mem_singleton.1 hl'] at hlt
      exact Nat.lt_irrefl _ hlt

theorem LinksInv.congr {s s' : State} (h : LinksInv s) (hs : SameClients s s') : LinksInv s' :=
  h.of_sublist (by rw [hs.links]) hs.allocs

/-- Every handler keeps the invariant, whatever the world answers. -/
theorem linksInv_step {s : State} (h : LinksInv s) (r : Request) (a : Answers) : LinksInv (handle s r a).state := by
  cases handle_clients s r a with
  | kept _ hs => exact h.congr hs
  | acquired pid cb _ hs => exact (h.registered pid cb).congr hs
  | absent _ _ _ hs => exact h.congr hs
  | oneOfSeveral pid d _ _ _ hs =>
    have hdown : LinksInv (countedDown s pid d) := h.of_sublist (linksWithout_sublist s d) (Nat.le_refl _)
    exact hdown.congr hs
  | lastOne pid d _ _ _ hs =>
    have hreleased : LinksInv (released s pid d) := h.of_sublist (linksWithout_sublist s d) (Nat.le_refl _)
    exact hreleased.congr hs
  | cleared _ _ hl ha => exact h.of_sublist (by simp [hl]) ha
  | erased pid _ hs => exact h.of_sublist (by rw [hs.links]; exact unregister_sublist s pid) hs.allocs

/-! ## What each handler does to the cover -/

/-- The cover of a state is that of its map and links. -/
theorem covered_congr {s s' : State} (hs : SameClients s s') : Covered s' ↔ Covered s := by
  unfold Covered
  rw [hs.pidsMap, hs.links]

theorem covered_of_isEmpty {s : State} (h : s.pidsMap.isEmpty = true) : Covered s := by
  intro pid d hd
  rw [Std.ExtTreeMap.isEmpty_iff] at h
  rw [h] at hd
  simp at hd

/-- Registering a caller covers a new pid by the new link, and leaves an old one with the link it had. -/
theorem Covered.registered {s : State} (h : Covered s) (pid : Pid) (cb : Binder) : Covered (registered s pid cb) := by
  intro q d hq
  have hold : ∀ d', s.pidsMap[q]? = some d' → d.lServiceCb = d'.lServiceCb → d.lDeathNotifier = d'.lDeathNotifier →
      ∃ cb' n, d.lServiceCb = some cb' ∧ d.lDeathNotifier = some n ∧ n.mPid = q ∧
        (cb', n) ∈ (EseManager.registered s pid cb).links := by
    intro d' hd' hcb hn
    obtain ⟨cb', n, h1, h2, h3, h4⟩ := h q d' hd'
    exact ⟨cb', n, hcb.trans h1, hn.trans h2, h3, mem_linksWith h4 pid _⟩
  simp only [EseManager.registered, PidsMap.addHold] at hq
  split at hq
  · rename_i hm
    by_cases hqp : pid = q
    · subst hqp
      simp only [Std.ExtTreeMap.getElem?_insert_self, Option.some.injEq] at hq
      subst hq
      refine ⟨cb, newNotifier s pid, rfl, rfl, rfl, ?_⟩
      simp [EseManager.registered, linksWith_of_none hm]
    · rw [Std.ExtTreeMap.getElem?_insert, if_neg (by simpa using hqp)] at hq
      exact hold d hq rfl rfl
  · rename_i d₀ hm
    by_cases hqp : pid = q
    · subst hqp
      simp only [Std.ExtTreeMap.getElem?_insert_self, Option.some.injEq] at hq
      subst hq
      exact hold d₀ hm rfl rfl
    · rw [Std.ExtTreeMap.getElem?_insert, if_neg (by simpa using hqp)] at hq
      exact hold d hq rfl rfl

/-- Erasing an entry and unlinking its notifier leaves the other pids covered: their notifiers were made for them. -/
theorem Covered.released {s : State} (h : Covered s) {pid : Pid} {d : ServiceData} (hd : s.pidsMap[pid]? = some d) :
    Covered (released s pid d) := by
  obtain ⟨cb, n, hcb, hn, hpid, -⟩ := h pid d hd
  intro q d' hq
  by_cases hqp : pid = q
  · subst hqp
    simp [EseManager.released] at hq
  · simp only [EseManager.released] at hq
    rw [Std.ExtTreeMap.getElem?_erase, if_neg (by simpa using hqp)] at hq
    obtain ⟨cb', n', hcb', hn', hpid', hm⟩ := h q d' hq
    refine ⟨cb', n', hcb', hn', hpid', ?_⟩
    have hlink : d.link? = some (cb, n) := by simp [ServiceData.link?, hcb, hn]
    have hne : (cb', n') ≠ (cb, n) := by
      rintro heq
      rw [Prod.mk.injEq] at heq
      rw [heq.2, hpid] at hpid'
      exact hqp hpid'
    simp only [EseManager.released, linksWithout, hlink]
    exact (List.mem_erase_of_ne hne).2 hm

/-- Counting a hold down unlinks the notifier of an entry that stays. -/
theorem not_covered_countedDown {s : State} (hi : LinksInv s) (h : Covered s) {pid : Pid} {d : ServiceData}
    (hd : s.pidsMap[pid]? = some d) : ¬Covered (countedDown s pid d) := by
  obtain ⟨cb, n, hcb, hn, -, -⟩ := h pid d hd
  have hlink : d.link? = some (cb, n) := by simp [ServiceData.link?, hcb, hn]
  intro hc
  obtain ⟨cb', n', hcb', hn', -, hm⟩ := hc pid { d with clientThreadCount := d.clientThreadCount - 1 }
    (by simp [countedDown])
  rw [hcb, Option.some.injEq] at hcb'
  rw [hn, Option.some.injEq] at hn'
  subst hcb' hn'
  simp only [countedDown, linksWithout, hlink] at hm
  exact hi.nodup.not_mem_erase hm

/-- A registration that a death notice erases takes no other pid's cover away. -/
theorem Covered.unregister {s : State} (h : Covered s) (pid : Pid) : Covered (s.unregister pid) := by
  cases hm : s.pidsMap[pid]? with
  | some d =>
    have hs : SameClients (EseManager.released s pid d) (s.unregister pid) :=
      ⟨rfl, unregister_links_of_some hm, Nat.le_refl _⟩
    exact (covered_congr hs).2 (h.released hm)
  | none =>
    intro q d hq
    have hqp : pid ≠ q := by
      rintro rfl
      simp at hq
    rw [State.unregister_pidsMap, Std.ExtTreeMap.getElem?_erase, if_neg (by simpa using hqp)] at hq
    obtain ⟨cb, n, hcb, hn, hpid, hl⟩ := h q d hq
    exact ⟨cb, n, hcb, hn, hpid, by rw [unregister_links_of_none hm]; exact hl⟩

/-- The request releases one hold of several: it is a `powerOff`, and its caller's count stays positive. -/
theorem releasesOneOfSeveral_iff (s : State) (r : Request) (ret : Int) :
    ReleasesOneOfSeveral s r ↔
      ∃ pid d, holdOp r ret = .release pid ∧ s.pidsMap[pid]? = some d ∧ d.clientThreadCount - 1 > 0 := by
  constructor
  · intro hr
    cases r with
    | powerOff uid pid =>
      obtain ⟨hu, d, hm, hc⟩ := hr
      exact ⟨pid, d, holdOp_eq_release_iff.2 ⟨uid, rfl, hu⟩, hm, hc⟩
    | powerOn | getState | killall | geteSEBindingStatus | binderDied => cases hr
  · rintro ⟨pid, d, hop, hm, hc⟩
    obtain ⟨uid, rfl, hu⟩ := holdOp_eq_release_iff.1 hop
    exact ⟨hu, d, hm, hc⟩

/-- Of the handlers, only a `powerOff` that its caller's registration survives leaves a pid uncovered. -/
theorem covered_step {s : State} (hi : LinksInv s) (h : Covered s) (r : Request) (a : Answers) :
    Covered (handle s r a).state ↔ ¬ReleasesOneOfSeveral s r := by
  rw [releasesOneOfSeveral_iff s r (handle s r a).ret]
  -- an operation that releases nothing leaves nobody with one hold fewer
  have hother : ∀ op, holdOp r (handle s r a).ret = op → (∀ pid, op ≠ .release pid) →
      ¬∃ pid d, holdOp r (handle s r a).ret = .release pid ∧ s.pidsMap[pid]? = some d ∧ d.clientThreadCount - 1 > 0 := by
    rintro op hop hne ⟨pid, d, hrel, -⟩
    exact hne pid (hop.symm.trans hrel)
  cases handle_clients s r a with
  | kept hop hs => exact iff_of_true ((covered_congr hs).2 h) (hother _ hop (by simp))
  | acquired pid cb hop hs =>
    exact iff_of_true ((covered_congr hs).2 (h.registered pid cb)) (hother _ hop (by simp))
  | absent pid hop hm hs =>
    refine iff_of_true ((covered_congr hs).2 h) ?_
    rintro ⟨q, d, hrel, hm', -⟩
    cases hop.symm.trans hrel
    rw [hm] at hm'
    cases hm'
  | oneOfSeveral pid d hop hm hc hs =>
    rw [covered_congr hs]
    exact iff_of_false (not_covered_countedDown hi h hm) (fun hn => hn ⟨pid, d, hop, hm, hc⟩)
  | lastOne pid d hop hm hc hs =>
    refine iff_of_true ((covered_congr hs).2 (h.released hm)) ?_
    rintro ⟨q, d', hrel, hm', hc'⟩
    cases hop.symm.trans hrel
    rw [hm, Option.some.injEq] at hm'
    subst hm'
    exact hc hc'
  | cleared hop hm =>
    refine iff_of_true (covered_of_isEmpty ?_) (hother _ hop (by simp))
    rw [hm]
    exact Std.ExtTreeMap.isEmpty_empty
  | erased pid hop hs => exact iff_of_true ((covered_congr hs).2 (h.unregister pid)) (hother _ hop (by simp))

/-! ## The exact condition -/

/-- Every registered client stays covered in every state of a run exactly when no step of the run is a `powerOff` that leaves its
caller registered. -/
theorem covered_always_iff (xs : List (Request × Answers)) :
    daemon.Always Covered State.init xs ↔ daemon.Along (fun s x => ¬ReleasesOneOfSeveral s x.1) State.init xs := by
  have hinit : LinksInv State.init := ⟨fun l hl => by simp [State.init] at hl, List.nodup_nil⟩
  have hcov : Covered State.init := covered_of_isEmpty Std.ExtTreeMap.isEmpty_empty
  exact Machine.always_iff_along (P := fun _ _ => True) (fun s x h _ => linksInv_step h x.1 x.2)
    (fun s x hi _ hc => covered_step hi hc x.1 x.2) hinit hcov (daemon.along_of_forall_mem (fun _ _ _ => trivial) _)

/-- Two threads of pid 5 power the eSE on and one powers it off: the pid is still registered with one hold, and its entry is not
covered. -/
theorem covered_fails_for_second_thread :
    let xs : List (Request × Answers) :=
      [(.powerOn 1000 5 (some 1), working), (.powerOn 1000 5 (some 2), working), (.powerOff 1000 5, working)]
    (∀ x ∈ xs, x.2.linkRet = noError) ∧ threadCount (daemon.run State.init xs).pidsMap 5 = 1 ∧
      ¬daemon.Always Covered State.init xs := by
  refine ⟨by decide, by decide, fun h => ?_⟩
  obtain ⟨cb, n, hcb, hn, -, hm⟩ := h _ (List.prefix_refl _) 5
    { lServiceCb := some 1, lDeathNotifier := some { addr := 0, mPid := 5 }, clientThreadCount := 1 } (by decide)
  rw [Option.some.injEq] at hcb hn
  subst hcb hn
  exact absurd hm (by decide)

end EseManager
