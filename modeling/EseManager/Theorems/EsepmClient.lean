import EseManager.Theorems.PowerService

/-!
# What the command line client leaves behind

`esepmclient` among arbitrary other clients, in the build without `eSEClient_Debug`. Its process is new, so nothing is registered under
its pid when it starts.
-/

namespace EseManager

open Ipc

/-- The input comes from the process with this pid, or is a notice of its death. -/
def ServiceInput.isOf (pid : Pid) : ServiceInput → Bool
  | .call _ p _ => p == pid
  | .notice mPid => mPid == pid

theorem ServiceInput.isOf_of_concerns {pid : Pid} {i : ServiceInput} (h : i.Concerns pid) : i.isOf pid = true := by
  cases i with
  | call uid p m => exact beq_iff_eq.2 h.1
  | notice mPid => exact beq_iff_eq.2 h

/-- In the run the process with this pid calls these methods, in this order, and no notice of its death is delivered. -/
def Calls (uid : Int) (pid : Pid) (ms : List PowerMethod) (xs : List (ServiceInput × Answers)) : Prop :=
  (xs.filter fun x => x.1.isOf pid).map Prod.fst = ms.map fun m => .call uid pid m

section

variable {mem : Allocator} {base : BBinder Binder} {uid : Int} {pid : Pid} {ms : List PowerMethod} {m : PowerMethod}
  {xs : List (ServiceInput × Answers)}

/-- While the process calls nothing, its entry stays as it is. -/
theorem Calls.entry_of_nil (h : Calls uid pid [] xs) (s : State) :
    ((powerService false mem base).run s xs).pidsMap[pid]? = s.pidsMap[pid]? := by
  have hnone : xs.filter (fun x => x.1.isOf pid) = [] := List.map_eq_nil_iff.1 h
  rw [List.filter_eq_nil_iff] at hnone
  exact (powerService_private mem base s xs pid fun x hx hc => hnone x hx (ServiceInput.isOf_of_concerns hc)).1

/-- The first call of the process: up to it its entry stays as it is. -/
theorem Calls.split (mem : Allocator) (base : BBinder Binder) (h : Calls uid pid (m :: ms) xs) (s : State) :
    ∃ pre a post, xs = pre ++ (.call uid pid m, a) :: post ∧
      (∀ x ∈ pre, x.1.isOf pid = false) ∧ Calls uid pid ms post ∧
        ((powerService false mem base).run s pre).pidsMap[pid]? = s.pidsMap[pid]? := by
  obtain ⟨x, rest, hfilter, hx, hrest⟩ := List.map_eq_cons_iff.1 h
  obtain ⟨pre, post, rfl, hpre, -, hpost⟩ := List.filter_eq_cons_iff.1 hfilter
  obtain ⟨i, a⟩ := x
  cases hx
  have hnone : Calls uid pid [] pre := List.map_eq_nil_iff.2 (List.filter_eq_nil_iff.2 hpre)
  refine ⟨pre, a, post, rfl, fun x hx => Bool.eq_false_iff.2 (hpre x hx), ?_, hnone.entry_of_nil s⟩
  unfold Calls
  rw [hpost, hrest]

end

/-- One hold of the eSE, by a caller that may have it. -/
def HoldsOnce (uid : Int) (entry : Option ServiceData) : Prop :=
  uidAllowed uid = true ∧ ∃ d, entry = some d ∧ d.clientThreadCount = 1

/-- `powerOn` of a process that is not registered: it is not registered afterwards, or has one hold. -/
theorem powerOn_entry {s : State} {pid : Pid} (hm : s.pidsMap[pid]? = none) (uid : Int) (notifier : Option Binder) (a : Answers) :
    (powerOn s uid pid notifier a).state.pidsMap[pid]? = none ∨
      HoldsOnce uid (powerOn s uid pid notifier a).state.pidsMap[pid]? := by
  rcases powerOn_cases s uid pid notifier a with ⟨-, hsame⟩ | ⟨-, hadm, cb, -, -, hst⟩
  · exact Or.inl (hsame.pidsMap ▸ hm)
  · refine Or.inr ⟨hadm.2.1, ?_⟩
    have hmap : (admittedState s a).pidsMap[pid]? = none := hm
    simp [hst, registered, PidsMap.addHold, hmap]

/-- `powerOff` of a process that is not registered, or has one hold: it is not registered afterwards. -/
theorem powerOff_entry {s : State} {uid : Int} {pid : Pid} (hm : s.pidsMap[pid]? = none ∨ HoldsOnce uid s.pidsMap[pid]?) (a : Answers) :
    (powerOff s uid pid a).state.pidsMap[pid]? = none := by
  have hexit := powerOff_exit s uid pid a
  generalize powerOff s uid pid a = o at hexit
  cases hexit with
  | refused hu =>
    rcases hm with hm | ⟨hu', -⟩
    · exact hm
    · rw [hu'] at hu
      cases hu
  | unregistered _ hm' => exact hm'
  | kept _ d hd hc =>
    rcases hm with hm | ⟨-, d', hd', hone⟩
    · rw [hm] at hd
      cases hd
    · rw [hd, Option.some.injEq] at hd'
      rw [hd', hone] at hc
      exact absurd hc (by decide)
  | shared => simp [released]
  | closed => simp [released]
  | last _ d _ _ _ _ o ho => simp [(sameClients_switchOff ho).pidsMap, released]

/-- `powerOff` of a process that is not registered does nothing. -/
theorem powerOff_of_unregistered {s : State} {pid : Pid} (hm : s.pidsMap[pid]? = none) (uid : Int) (a : Answers) :
    (powerOff s uid pid a).state = s ∧ (powerOff s uid pid a).calls = [] := by
  by_cases hu : uidAllowed uid = false
  · simp [powerOff, hu]
  · simp [powerOff, hu, hm]

section

variable {mem : Allocator} {base : BBinder Binder} {s : State} {uid : Int} {pid : Pid} {xs : List (ServiceInput × Answers)}

/-- The run up to a call, the call, and the run behind it. -/
theorem run_at (pre post : List (ServiceInput × Answers)) (x : ServiceInput × Answers) :
    (powerService false mem base).run s (pre ++ x :: post) =
      (powerService false mem base).run ((powerService false mem base).next ((powerService false mem base).run s pre) x) post := by
  rw [Machine.run_append, Machine.run_cons]

/-- A process that powers on once. -/
theorem Calls.powerOn {cb : Option Binder} (h : Calls uid pid [.powerOn cb] xs) (hfree : s.pidsMap[pid]? = none) :
    ((powerService false mem base).run s xs).pidsMap[pid]? = none ∨
      HoldsOnce uid ((powerService false mem base).run s xs).pidsMap[pid]? := by
  obtain ⟨pre, a, post, rfl, -, hpost, hpre⟩ := h.split mem base s
  rw [run_at, hpost.entry_of_nil, powerService_next]
  exact powerOn_entry (hpre.trans hfree) uid cb a

/-- A process that powers off once. -/
theorem Calls.powerOff (h : Calls uid pid [.powerOff] xs)
    (hentry : s.pidsMap[pid]? = none ∨ HoldsOnce uid s.pidsMap[pid]?) :
    ((powerService false mem base).run s xs).pidsMap[pid]? = none := by
  obtain ⟨pre, a, post, rfl, -, hpost, hpre⟩ := h.split mem base s
  rw [run_at, hpost.entry_of_nil, powerService_next]
  rw [← hpre] at hentry
  exact powerOff_entry hentry a

/-- A process that powers on and then off. -/
theorem Calls.powerOn_powerOff {cb : Option Binder} (h : Calls uid pid [.powerOn cb, .powerOff] xs)
    (hfree : s.pidsMap[pid]? = none) : ((powerService false mem base).run s xs).pidsMap[pid]? = none := by
  obtain ⟨pre, a, post, rfl, -, hpost, hpre⟩ := h.split mem base s
  rw [run_at, powerService_next]
  exact hpost.powerOff (powerOn_entry (hpre.trans hfree) uid cb a)

/-- A call that leaves the daemon as it is, in every state in which the process is not registered. -/
theorem Calls.idle {m : PowerMethod} (h : Calls uid pid [m] xs) (hfree : s.pidsMap[pid]? = none)
    (hidle : ∀ t a, t.pidsMap[pid]? = none →
      (powerService false mem base).next t (.call uid pid m, a) = t ∧ ((powerService false mem base).out t (.call uid pid m, a)).2 = []) :
    (powerService false mem base).Along (fun t x => x.1.isOf pid = true →
      (powerService false mem base).next t x = t ∧ ((powerService false mem base).out t x).2 = []) s xs := by
  have hother : ∀ t ys, (∀ x ∈ ys, x.1.isOf pid = false) → (powerService false mem base).Along (fun t x => x.1.isOf pid = true →
      (powerService false mem base).next t x = t ∧ ((powerService false mem base).out t x).2 = []) t ys := by
    intro t ys hys
    refine Machine.along_of_forall_mem _ (fun x hx t hof => ?_) t
    rw [hys x hx] at hof
    cases hof
  obtain ⟨pre, a, post, rfl, hnone, hpost, hpre⟩ := h.split mem base s
  have hrest : ∀ x ∈ post, x.1.isOf pid = false := by
    have hnil : post.filter (fun x => x.1.isOf pid) = [] := List.map_eq_nil_iff.1 hpost
    exact fun x hx => Bool.eq_false_iff.2 (List.filter_eq_nil_iff.1 hnil x hx)
  rw [Machine.along_append, Machine.along_cons]
  exact ⟨hother s pre hnone, fun _ => hidle _ a (hpre.trans hfree), hother _ post hrest⟩

end

/-- `esepmclient` with any arguments, its calls among those of arbitrary other clients and whatever the device and Binder answer: at the
end its process is not registered, or it was to power on, and holds the eSE once until the notice of its death. With `poweroff` and
`killall` it never does anything. -/
theorem esepmclient_ends (mem : Allocator) (base : BBinder Binder) (s : State) (uid : Int) (pid : Pid) (cb : Binder) (args : List String)
    (xs : List (ServiceInput × Answers)) (hfree : s.pidsMap[pid]? = none) (hcalls : Calls uid pid (esepmclientMain cb args) xs) :
    let service := powerService false mem base
    let t := service.run s xs
    (t.pidsMap[pid]? = none ∨ args.head? = some "poweron" ∧ HoldsOnce uid t.pidsMap[pid]?) ∧
      (∀ a, (service.next t (.notice pid, a)).pidsMap[pid]? = none) ∧
      (args.head? = some "poweroff" ∨ args.head? = some "killall" →
        service.Along (fun t x => x.1.isOf pid = true → service.next t x = t ∧ (service.out t x).2 = []) s xs) := by
  intro service t
  have hnotice : ∀ a, (service.next t (.notice pid, a)).pidsMap[pid]? = none := by
    intro a
    have hnext : service.next t (.notice pid, a) = (binderDied t pid a).state := rfl
    rw [hnext, binderDied_eq]
    simp
  unfold esepmclientMain at hcalls
  cases args with
  | nil => exact ⟨Or.inl (hcalls.powerOn_powerOff hfree), hnotice, by simp⟩
  | cons arg rest =>
    dsimp only at hcalls
    split_ifs at hcalls with hon hoff hkill hget
    · refine ⟨(hcalls.powerOn hfree).imp_right fun h => ⟨congrArg some hon, h⟩, hnotice, ?_⟩
      simp [hon]
    · refine ⟨Or.inl (hcalls.powerOff (Or.inl hfree)), hnotice, fun _ => hcalls.idle hfree fun t a ht => ?_⟩
      rw [powerService_next, powerService_calls]
      exact powerOff_of_unregistered ht uid a
    · have hnothing : ∀ t a, service.next t (.call uid pid .killall, a) = t ∧ (service.out t (.call uid pid .killall, a)).2 = [] := by
        intro t a
        simp only [service]
        rw [powerService_next, powerService_calls]
        exact ⟨rfl, rfl⟩
      refine ⟨Or.inl ?_, hnotice, fun _ => hcalls.idle hfree fun t a _ => hnothing t a⟩
      obtain ⟨pre, a, post, rfl, -, hpost, hpre⟩ := hcalls.split mem base s
      rw [show t = _ from run_at pre post _, hpost.entry_of_nil, powerService_next]
      exact hpre.trans hfree
    · refine ⟨Or.inl ?_, hnotice, by simp [hget]⟩
      obtain ⟨pre, a, post, rfl, -, hpost, hpre⟩ := hcalls.split mem base s
      rw [show t = _ from run_at pre post _, hpost.entry_of_nil, powerService_next]
      exact (handle_clients _ .getState a).entry (by simp [holdOp]) (by simp [holdOp]) (by simp [holdOp])
        (by simp [holdOp]) |>.trans (hpre.trans hfree)
    · refine ⟨Or.inl (hcalls.powerOn_powerOff hfree), hnotice, ?_⟩
      simp [hoff, hkill]

/-- While another client has the eSE, `esepmclient poweroff` is called by the system: the eSE stays with that client. -/
theorem esepmclient_ends_powerless :
    let xs : List (ServiceInput × Answers) := [(.call 1000 6 (.powerOn (some 2)), working), (.call 1000 5 .powerOff, working)]
    (powerService false .endless .refusing).Along (fun t x => x.1.isOf 5 = true →
      (powerService false .endless .refusing).next t x = t ∧ ((powerService false .endless .refusing).out t x).2 = []) State.init xs := by
  intro xs
  have hcalls : Calls 1000 5 (esepmclientMain 1 ["poweroff"]) xs := by
    simp [Calls, esepmclientMain, xs, ServiceInput.isOf]
  exact (esepmclient_ends .endless .refusing State.init 1000 5 1 ["poweroff"] xs (by simp [State.init]) hcalls).2.2 (Or.inl rfl)

end EseManager
