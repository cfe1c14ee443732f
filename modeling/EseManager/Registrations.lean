import EseManager.Lib.Holds
import EseManager.Lemmas.Handlers

/-!
# What the handlers do to the registrations

`handle_clients` says once what a request can do to the registrations and death links, and the invariants on them are read off
it. The map of pids is a reference count of the eSE: `holdOp` is what a request, with its reply, does to the holds of the
clients, and `tracks_step` says the map follows it, whatever the device and Binder answer. The other fact every property of the
power rests on is `handle_empties`: a handler that switches the eSE off leaves nobody registered.
-/

namespace EseManager

/-- The number of holds an entry counts. -/
def ServiceData.count (d : ServiceData) : Int := d.clientThreadCount.toInt

/-- `pidsMap[pid].client_threadCount`, zero when the pid is not registered. -/
def threadCount (m : PidsMap) (pid : Pid) : Int := (m[pid]?.map ServiceData.count).getD 0

/-- What a request does to the holds of the clients, given its reply. -/
def holdOp (r : Request) (ret : Int) : HoldOp Pid :=
  match r with
  | .powerOn _ pid _ => if ret = 1 then .acquire pid else .keep
  | .powerOff uid pid => if uidAllowed uid then .release pid else .keep
  | .killall uid => if uidAllowed uid then .cancelAll else .keep
  | .binderDied mPid => .cancel mPid
  | .getState => .keep
  | .geteSEBindingStatus => .keep

theorem holdOp_powerOn_one (uid : Int) (pid : Pid) (notifier : Option Binder) :
    holdOp (.powerOn uid pid notifier) 1 = .acquire pid := rfl

theorem holdOp_powerOn_of_neg {ret : Int} (h : ret < 0) (uid : Int) (pid : Pid) (notifier : Option Binder) :
    holdOp (.powerOn uid pid notifier) ret = .keep := by
  have : ret ≠ 1 := by omega
  simp [holdOp, this]

/-- Only an authorised `powerOff` releases a hold. -/
theorem holdOp_eq_release_iff {r : Request} {ret : Int} {pid : Pid} :
    holdOp r ret = .release pid ↔ ∃ uid, r = .powerOff uid pid ∧ uidAllowed uid = true := by
  cases r <;> simp only [holdOp]
  case powerOff uid q =>
    by_cases hu : uidAllowed uid = true <;> simp [hu]
  case powerOn =>
    split <;> simp
  case killall =>
    split <;> simp
  all_goals simp

/-! ## powerOn registers exactly when it returns 1 -/

/-- A state with the registrations and death links of another; notifiers may have been made in between. -/
structure SameClients (s s' : State) : Prop where
  pidsMap : s'.pidsMap = s.pidsMap
  links : s'.links = s.links
  allocs : s.allocs ≤ s'.allocs

/-- `powerOn` either fails, with a negative reply and the registrations and death links as they were, or registers its caller
and returns 1. -/
theorem powerOn_cases (s : State) (uid : Int) (pid : Pid) (notifier : Option Binder) (a : Answers) :
    ((powerOn s uid pid notifier a).ret < 0 ∧ SameClients s (powerOn s uid pid notifier a).state) ∨
      ((powerOn s uid pid notifier a).ret = 1 ∧ Admitted s uid a ∧ ∃ cb, notifier = some cb ∧ a.linkRet = noError ∧
        (powerOn s uid pid notifier a).state = registered (admittedState s a) pid cb) := by
  by_cases hadm : Admitted s uid a
  · have heq := powerOn_admitted hadm pid notifier
    have hexit := powerOnNode_exit (admittedState s a) pid notifier a
    have hsame : SameClients s (admittedState s a) := ⟨rfl, rfl, Nat.le_refl _⟩
    have halloc : SameClients s (allocated (admittedState s a)) := ⟨rfl, rfl, Nat.le_succ _⟩
    rw [heq]
    generalize powerOnNode (admittedState s a) pid notifier a = o at hexit
    cases hexit with
    | statusFailed hst => exact Or.inl ⟨hst, hsame⟩
    | switchFailed hst ret switched hs => exact Or.inl ⟨hs.ret_neg, hsame⟩
    | on hst switched hs o hr =>
      cases hr with
      | shared => exact Or.inl ⟨by simp, halloc⟩
      | undoFailed _ _ hr => exact Or.inl ⟨hr, halloc⟩
      | undone => exact Or.inl ⟨by simp, ⟨rfl, rfl, halloc.allocs⟩⟩
      | linkFailed => exact Or.inl ⟨by simp, halloc⟩
      | registered cb hn hl => exact Or.inr ⟨rfl, hadm, cb, hn, hl, rfl⟩
  · obtain ⟨hneg, -, hst⟩ := powerOn_refused hadm pid notifier
    rcases hst with hst | hst
    · exact Or.inl ⟨hneg, by rw [hst]; exact ⟨rfl, rfl, Nat.le_refl _⟩⟩
    · exact Or.inl ⟨hneg, by rw [hst]; exact ⟨rfl, rfl, Nat.le_refl _⟩⟩

/-! ## What a handler does to the registrations and death links -/

theorem SameClients.refl (s : State) : SameClients s s := ⟨rfl, rfl, Nat.le_refl _⟩

/-- Switching off touches no client. -/
theorem sameClients_switchOff {s : State} {a : Answers} {done : Int} {o : Outcome} (h : SwitchOffExit s a done o) :
    SameClients s o.state := by
  cases h <;> exact ⟨rfl, rfl, Nat.le_refl _⟩

/-- How a request with its reply ends for the registrations and death links, by what it does to the holds. -/
inductive ClientsExit (s : State) (r : Request) (ret : Int) (s' : State) : Prop where
  | kept (hop : holdOp r ret = .keep) (hs : SameClients s s')
  | acquired (pid : Pid) (cb : Binder) (hop : holdOp r ret = .acquire pid) (hs : SameClients (registered s pid cb) s')
  | absent (pid : Pid) (hop : holdOp r ret = .release pid) (hm : s.pidsMap[pid]? = none) (hs : SameClients s s')
  | oneOfSeveral (pid : Pid) (d : ServiceData) (hop : holdOp r ret = .release pid) (hm : s.pidsMap[pid]? = some d)
      (hc : d.clientThreadCount - 1 > 0) (hs : SameClients (countedDown s pid d) s')
  | lastOne (pid : Pid) (d : ServiceData) (hop : holdOp r ret = .release pid) (hm : s.pidsMap[pid]? = some d)
      (hc : ¬d.clientThreadCount - 1 > 0) (hs : SameClients (released s pid d) s')
  | cleared (hop : holdOp r ret = .cancelAll) (hm : s'.pidsMap = ∅) (hl : s'.links = []) (ha : s.allocs ≤ s'.allocs)
  | erased (pid : Pid) (hop : holdOp r ret = .cancel pid) (hs : SameClients (s.unregister pid) s')

/-- What `powerOff` does to the clients. -/
theorem powerOff_clients (s : State) (uid : Int) (pid : Pid) (a : Answers) :
    ClientsExit s (.powerOff uid pid) (powerOff s uid pid a).ret (powerOff s uid pid a).state := by
  have hexit := powerOff_exit s uid pid a
  generalize powerOff s uid pid a = o at hexit
  have hop : ∀ ret, uidAllowed uid = true → holdOp (.powerOff uid pid) ret = .release pid :=
    fun ret hu => by simp [holdOp, hu]
  cases hexit with
  | refused hu => exact .kept (by simp [holdOp, hu]) (SameClients.refl s)
  | unregistered hu hm => exact .absent pid (hop _ hu) hm (SameClients.refl s)
  | kept hu d hm hc => exact .oneOfSeveral pid d (hop _ hu) hm hc (SameClients.refl _)
  | shared hu d hm hc => exact .lastOne pid d (hop _ hu) hm hc (SameClients.refl _)
  | closed hu d hm hc => exact .lastOne pid d (hop _ hu) hm hc (SameClients.refl _)
  | last hu d hm hc _ _ o ho =>
    rw [Outcome.after_state]
    exact .lastOne pid d (hop _ hu) hm hc (sameClients_switchOff ho)

/-- What `killall` does to them. -/
theorem killall_clients (s : State) (uid : Int) (a : Answers) :
    ClientsExit s (.killall uid) (killall s uid a).ret (killall s uid a).state := by
  have hexit := killall_exit s uid a
  generalize killall s uid a = o at hexit
  cases hexit with
  | refused hu => exact .kept (by simp [holdOp, hu]) (SameClients.refl s)
  | notOpened hu => exact .cleared (by simp [holdOp, hu]) rfl rfl (Nat.le_refl _)
  | opened hu _ _ _ o ho =>
    have hsame := sameClients_switchOff ho
    rw [Outcome.after_state]
    exact .cleared (by simp [holdOp, hu]) hsame.pidsMap hsame.links hsame.allocs

/-- Whatever the device and Binder answer, a handler does one of these things to the registrations and death links. -/
theorem handle_clients (s : State) (r : Request) (a : Answers) :
    ClientsExit s r (handle s r a).ret (handle s r a).state := by
  cases r with
  | powerOn uid pid notifier =>
    rw [handle_powerOn]
    rcases powerOn_cases s uid pid notifier a with ⟨hneg, hsame⟩ | ⟨hone, -, cb, -, -, hst⟩
    · exact .kept (holdOp_powerOn_of_neg hneg uid pid notifier) hsame
    · rw [hone, hst]
      exact .acquired pid cb (holdOp_powerOn_one uid pid notifier) ⟨rfl, rfl, Nat.le_refl _⟩
  | powerOff uid pid => exact powerOff_clients s uid pid a
  | getState =>
    rw [handle_getState, (getState_eq s a).1]
    exact .kept rfl ⟨rfl, rfl, Nat.le_refl _⟩
  | killall uid => exact killall_clients s uid a
  | geteSEBindingStatus => exact .kept rfl (SameClients.refl s)
  | binderDied mPid =>
    rw [handle_binderDied, binderDied_eq]
    exact .erased mPid rfl (SameClients.refl _)

/-! ## The 32-bit thread count -/

/-- A count that stays below 2^31 is counted up exactly. -/
theorem toInt_add_one {c : Int32} {n : Nat} (h : c.toInt = n) (hn : n + 1 < 2 ^ 31) : (c + 1).toInt = (n + 1 : Nat) := by
  have hone : (1 : Int32).toInt = 1 := rfl
  rw [Int32.toInt_add, h, hone, Int.bmod_eq_of_le (by omega) (by omega), Int.natCast_succ]

/-- A positive count is counted down exactly. -/
theorem toInt_sub_one {c : Int32} {n : Nat} (h : c.toInt = n) (hn : 0 < n) : (c - 1).toInt = (n - 1 : Nat) := by
  have hone : (1 : Int32).toInt = 1 := rfl
  have hlt := c.toInt_lt
  rw [h] at hlt
  rw [Int32.toInt_sub, h, hone, Int.bmod_eq_of_le (by omega) (by omega)]
  omega

/-- The test of `powerOff` on the counted-down count: other holds remain. -/
theorem countedDown_pos_iff {c : Int32} {n : Nat} (h : c.toInt = n) (hn : 0 < n) : c - 1 > 0 ↔ 1 < n := by
  have hzero : (0 : Int32).toInt = 0 := rfl
  rw [gt_iff_lt, Int32.lt_iff_toInt_lt, toInt_sub_one h hn, hzero]
  omega

/-! ## The map follows the holds -/

/-- Registering a caller adds a hold. -/
theorem tracks_addHold {m : PidsMap} {h : Holds Pid} (ht : Tracks ServiceData.count m h) (pid : Pid)
    (data : ServiceData) (hb : h pid + 1 < 2 ^ 31) :
    Tracks ServiceData.count (m.addHold pid data) (h.apply (.acquire pid)) := by
  rw [Holds.apply_acquire]
  unfold PidsMap.addHold
  split
  · rename_i hm
    rw [ht.of_none hm]
    exact ht.insert pid (by omega) (by simp [ServiceData.count])
  · rename_i d hm
    exact ht.insert pid (by omega) (toInt_add_one (ht.of_some hm).2 hb)

/-- Releasing a hold of a pid whose count is not positive afterwards leaves it none. -/
theorem released_last {m : PidsMap} {h : Holds Pid} (ht : Tracks ServiceData.count m h) {pid : Pid} {d : ServiceData}
    (hm : m[pid]? = some d) (hc : ¬d.clientThreadCount - 1 > 0) : h pid - 1 = 0 := by
  have hd := ht.of_some hm
  rw [countedDown_pos_iff hd.2 hd.1] at hc
  omega

/-- The map follows the holds through every end of a request, as long as no thread count reaches 2^31. -/
theorem tracks_clients {s s' : State} {h : Holds Pid} (ht : Tracks ServiceData.count s.pidsMap h) {r : Request} {ret : Int}
    (he : ClientsExit s r ret s') (hb : ∀ pid, holdOp r ret = .acquire pid → h pid + 1 < 2 ^ 31) :
    Tracks ServiceData.count s'.pidsMap (h.apply (holdOp r ret)) := by
  cases he with
  | kept hop hs =>
    rw [hop, hs.pidsMap, Holds.apply_keep]
    exact ht
  | acquired pid cb hop hs =>
    have hbp := hb pid hop
    rw [hop, hs.pidsMap]
    exact tracks_addHold ht pid _ hbp
  | absent pid hop hm hs =>
    have h0 := ht.of_none hm
    have hsame : Function.update h pid (h pid - 1) = h := by
      rw [h0]
      exact Function.update_eq_self_iff.2 h0.symm
    rw [hop, hs.pidsMap, Holds.apply_release, hsame]
    exact ht
  | oneOfSeveral pid d hop hm hc hs =>
    have hd := ht.of_some hm
    rw [countedDown_pos_iff hd.2 hd.1] at hc
    rw [hop, hs.pidsMap, Holds.apply_release]
    exact ht.insert pid (by omega) (toInt_sub_one hd.2 hd.1)
  | lastOne pid d hop hm hc hs =>
    rw [hop, hs.pidsMap, Holds.apply_release, released_last ht hm hc]
    exact ht.erase pid
  | cleared hop hm =>
    rw [hop, hm, Holds.apply_cancelAll]
    exact Tracks.empty
  | erased pid hop hs =>
    rw [hop, hs.pidsMap, Holds.apply_cancel]
    exact ht.erase pid

/-- Whatever the device and Binder answer, the map follows the holds, as long as no thread count reaches 2^31. -/
theorem tracks_step {s : State} {h : Holds Pid} (ht : Tracks ServiceData.count s.pidsMap h) (r : Request) (a : Answers)
    (hb : (h.apply (holdOp r (handle s r a).ret)).Below (2 ^ 31)) :
    Tracks ServiceData.count (handle s r a).state.pidsMap (h.apply (holdOp r (handle s r a).ret)) := by
  refine tracks_clients ht (handle_clients s r a) fun pid hop => ?_
  have hbp := hb pid
  rw [hop, Holds.apply_acquire, Function.update_self] at hbp
  exact hbp

/-! ## A power-off leaves nobody registered -/

/-- The end of `powerOn` switches off only when nobody is registered. -/
theorem register_empties {s : State} {pid : Pid} {notifier : Option Binder} {a : Answers} {o : Outcome}
    (h : RegisterExit s pid notifier a o) {c : Call} (hc : c ∈ o.calls) (hoff : c.isPowerOff = true) :
    o.state.pidsMap.isEmpty = true := by
  cases h with
  | shared => exact absurd hc List.not_mem_nil
  | undoFailed _ he _ => exact he
  | undone _ he _ _ _ => exact he
  | linkFailed =>
    rw [List.mem_singleton.1 hc] at hoff
    cases hoff
  | registered =>
    rw [List.mem_singleton.1 hc] at hoff
    cases hoff

/-- When `powerOn` switches the eSE off again, nobody is registered. -/
theorem powerOn_empties {s : State} {uid : Int} {pid : Pid} {notifier : Option Binder} {a : Answers} {c : Call}
    (hc : c ∈ (powerOn s uid pid notifier a).calls) (hoff : c.isPowerOff = true) :
    (powerOn s uid pid notifier a).state.pidsMap.isEmpty = true := by
  have hp := Call.isPower_of_isPowerOff hoff
  by_cases hadm : Admitted s uid a
  · have heq := powerOn_admitted hadm pid notifier
    have hq := admittedCalls_quiet s a
    have hexit := powerOnNode_exit (admittedState s a) pid notifier a
    rw [heq, Outcome.after_calls, hq.mem_append_iff hp] at hc
    rw [heq, Outcome.after_state]
    generalize powerOnNode (admittedState s a) pid notifier a = o at hexit hc ⊢
    have hstatus : c ≠ statusCall (admittedState s a) a := by
      intro heq
      rw [heq] at hoff
      cases hoff
    have hswitched : ∀ {r : Option Int} {switched : List Call},
        SwitchExit (admittedState s a) a.word a (r, switched) → c ∉ switched := by
      intro r switched hs hm
      rw [hs.no_powerOff c hm] at hoff
      cases hoff
    cases hexit with
    | statusFailed => exact absurd (List.mem_singleton.1 hc) hstatus
    | switchFailed _ ret switched hs =>
      rcases List.mem_cons.1 hc with hc | hc
      · exact absurd hc hstatus
      · exact absurd hc (hswitched hs)
    | on _ switched hs o hr =>
      rw [Outcome.after_calls, List.mem_append, List.mem_cons] at hc
      rw [Outcome.after_state]
      rcases hc with (hcs | hcs) | hco
      · exact absurd hcs hstatus
      · exact absurd hcs (hswitched hs)
      · exact register_empties hr hco hoff
  · obtain ⟨-, hq, -⟩ := powerOn_refused hadm pid notifier
    rw [hq c hc] at hp
    cases hp

/-- When `powerOff` switches it off, nobody is left. -/
theorem powerOff_empties {s : State} {uid : Int} {pid : Pid} {a : Answers} {c : Call}
    (hc : c ∈ (powerOff s uid pid a).calls) (hoff : c.isPowerOff = true) :
    (powerOff s uid pid a).state.pidsMap.isEmpty = true := by
  have hexit := powerOff_exit s uid pid a
  generalize powerOff s uid pid a = o at hexit hc
  have hquiet : ∀ d, c ∉ (unlink s d).2 := by
    intro d hd
    have hp := Call.isPower_of_isPowerOff hoff
    rw [unlink_quiet s d c hd] at hp
    cases hp
  cases hexit with
  | refused => exact absurd hc List.not_mem_nil
  | unregistered => exact absurd hc List.not_mem_nil
  | kept _ d => exact absurd hc (hquiet d)
  | shared _ d => exact absurd hc (hquiet d)
  | closed _ d _ _ he _ => exact he
  | last _ d _ _ he _ o ho =>
    rw [Outcome.after_state, (sameClients_switchOff ho).pidsMap]
    exact he

/-- `killall` leaves nobody, if it calls anything. -/
theorem killall_empties {s : State} {uid : Int} {a : Answers} {c : Call} (hc : c ∈ (killall s uid a).calls) :
    (killall s uid a).state.pidsMap.isEmpty = true := by
  have hexit := killall_exit s uid a
  generalize killall s uid a = o at hexit hc
  cases hexit with
  | refused => exact absurd hc List.not_mem_nil
  | notOpened => exact Std.ExtTreeMap.isEmpty_empty
  | opened _ _ _ _ o ho =>
    rw [Outcome.after_state, (sameClients_switchOff ho).pidsMap]
    exact Std.ExtTreeMap.isEmpty_empty

/-- A handler that issues `P61_SET_SPM_PWR 0` leaves the map empty. -/
theorem handle_empties {s : State} {r : Request} {a : Answers} {c : Call} (hc : c ∈ (handle s r a).calls)
    (hoff : c.isPowerOff = true) : (handle s r a).state.pidsMap.isEmpty = true := by
  have hp := Call.isPower_of_isPowerOff hoff
  cases r with
  | powerOn uid pid notifier => exact powerOn_empties hc hoff
  | powerOff uid pid => exact powerOff_empties hc hoff
  | getState =>
    rw [handle_getState] at hc
    rw [getState_quiet s a c hc] at hp
    cases hp
  | killall uid => exact killall_empties hc
  | geteSEBindingStatus =>
    rw [List.mem_singleton.1 hc] at hoff
    cases hoff
  | binderDied mPid =>
    rw [handle_binderDied, binderDied_eq] at hc ⊢
    dsimp only at hc ⊢
    split at hc
    · rename_i he
      exact he.1
    · exact absurd hc List.not_mem_nil

end EseManager
