import EseManager.Lemmas.PowerRpc
import EseManager.PowerService
import EseManager.Theorems.DeathLinks

/-!
# What clients can do to the daemon through its stub

Over runs, the daemon behind its stub is the daemon given the requests that the stub passes on (`powerService_refines`). In the build
without `eSEClient_Debug` that is everything but `killall`: there no client gets at the registration of another, or switches the eSE off
while another is registered, and `esepmclient` leaves no trace among the registrations.
-/

namespace EseManager

open Ipc

/-! ## From the stub to the daemon -/

/-- What the daemon is given for an input: the stub without `eSEClient_Debug` drops `killall`. -/
def passedOn (debug : Bool) (x : ServiceInput × Answers) : Option (Request × Answers) :=
  match x.1 with
  | .call uid pid m => if m = .killall ∧ debug = false then none else some (m.asked uid pid, x.2)
  | .notice mPid => some (.binderDied mPid, x.2)

/-- The value that a client gets for a reply of the daemon: an `int32_t`. -/
def asInt32 (ret : Int) : Int := (Int32.ofInt ret).toInt

/-- A proxy gives the methods that the stub has called, whatever becomes of the reply. -/
theorem bpCall_calls (remote : PowerRemote) (code : UInt32) (data : Parcel Binder) :
    (bpCall remote code data).calls = (remote code data).calls := by
  simp only [bpCall]
  split_ifs <;> rfl

theorem callMethod_calls (debug : Bool) (mem : Allocator) (base : BBinder Binder) (s : State) (uid : Int) (pid : Pid) (m : PowerMethod)
    (a : Answers) :
    (callMethod debug mem base s uid pid m a).calls = if m = .killall ∧ debug = false then [] else [m] := by
  unfold callMethod
  rw [proxy_eq, bpCall_calls]
  by_cases hm : m = .killall ∧ debug = false
  · obtain ⟨rfl, rfl⟩ := hm
    rfl
  · obtain ⟨reply, hserve, -⟩ := serve_dispatched mem (methodsIn s uid pid a) m.request_token m
    rw [if_neg hm, powerOnTransact_dispatches debug mem _ base hm, hserve]

theorem callMethod_value {mem : Allocator} (hmem : ∀ n, mem.grows n = true) (debug : Bool) (base : BBinder Binder) (s : State) (uid : Int)
    (pid : Pid) {m : PowerMethod} (hm : ¬(m = .killall ∧ debug = false)) (a : Answers) :
    (callMethod debug mem base s uid pid m a).value = asInt32 (handle s (m.asked uid pid) a).ret := by
  unfold callMethod
  rw [proxy_eq, bpCall_valueReply ((powerOnTransact_dispatches debug mem _ base hm).trans (serve_of_grows hmem _ m.request_token m))]
  rfl

/-- The proxy of `killall` is told that all is well by a stub that has no case for it. -/
theorem callMethod_killall (mem : Allocator) {base : BBinder Binder} (hbase : base.RefusesUserCodes) (s : State) (uid : Int) (pid : Pid)
    (a : Answers) : (callMethod false mem base s uid pid .killall a).value = 0 := by
  have hrefused : base 4 PowerMethod.killall.request = (unknownTransaction, Parcel.empty) := hbase 4 _ (by decide) (by decide)
  unfold callMethod
  rw [proxy_eq]
  have hserved : powerOnTransact false mem (methodsIn s uid pid a) base PowerMethod.killall.code PowerMethod.killall.request =
      ⟨noError, Parcel.empty, []⟩ := by
    simp [powerOnTransact, PowerMethod.code, hrefused, transactionKillall, transactionPoweron, transactionPoweroff,
      transactionGetstate, transactionGetEseBindingStatus]
  rw [bpCall_empty hserved]

/-- A step of the service is the step of the daemon on what is passed on. -/
theorem powerService_next (debug : Bool) (mem : Allocator) (base : BBinder Binder) (s : State) (x : ServiceInput × Answers) :
    (powerService debug mem base).next s x = ((passedOn debug x).map (daemon.next s)).getD s := by
  rcases x with ⟨i, a⟩
  cases i with
  | call uid pid m =>
    simp only [powerService, callMethod_calls, passedOn]
    split_ifs <;> simp [handleAll]
  | notice mPid => rfl

theorem powerService_calls (debug : Bool) (mem : Allocator) (base : BBinder Binder) (s : State) (x : ServiceInput × Answers) :
    ((powerService debug mem base).out s x).2 = ((passedOn debug x).map fun y => (daemon.out s y).2).getD [] := by
  rcases x with ⟨i, a⟩
  cases i with
  | call uid pid m =>
    simp only [powerService, callMethod_calls, passedOn]
    split_ifs <;> simp [handleAll]
  | notice mPid => rfl

/-- Every run of the daemon behind its stub, whether the memory for the replies is there or not, is the run of the daemon on what is
passed on. When the memory is there, every value a client gets is the reply of the daemon, and zero for a `killall` that is not passed
on. -/
theorem powerService_refines (debug : Bool) (mem : Allocator) (base : BBinder Binder) (hbase : base.RefusesUserCodes) (s : State)
    (xs : List (ServiceInput × Answers)) :
    (powerService debug mem base).run s xs = daemon.run s (xs.filterMap (passedOn debug)) ∧
      ((powerService debug mem base).outs s xs).flatMap Prod.snd =
        (daemon.outs s (xs.filterMap (passedOn debug))).flatMap Prod.snd ∧
      ((∀ n, mem.grows n = true) → (powerService debug mem base).Along (fun t x =>
        ((powerService debug mem base).out t x).1 = ((passedOn debug x).map fun y => asInt32 (daemon.out t y).1).getD 0) s xs) := by
  refine ⟨Machine.run_eq_run_filterMap (powerService_next debug mem base) s xs, ?_, fun hmem => ?_⟩
  · induction xs generalizing s with
    | nil => rfl
    | cons x xs ih =>
      rw [Machine.outs, List.flatMap_cons, ih, powerService_calls, powerService_next]
      cases hx : passedOn debug x with
      | none => simp [hx]
      | some y => simp [hx, Machine.outs]
  · refine Machine.along_of_forall_mem _ (fun x _ t => ?_) s
    rcases x with ⟨i, a⟩
    cases i with
    | call uid pid m =>
      by_cases hm : m = .killall ∧ debug = false
      · obtain ⟨rfl, rfl⟩ := hm
        exact callMethod_killall mem hbase t uid pid a
      · have hpassed : passedOn debug (.call uid pid m, a) = some (m.asked uid pid, a) := if_neg hm
        rw [hpassed]
        exact callMethod_value hmem debug base t uid pid hm a
    | notice mPid =>
      have hret : (binderDied t mPid a).ret = noError := by rw [binderDied_eq]
      have hvalue : ((powerService debug mem base).out t (.notice mPid, a)).1 = asInt32 (binderDied t mPid a).ret := by
        rw [hret]
        rfl
      exact hvalue

/-- With `eSEClient_Debug`, `killall` ends the registration of another client; without, it is told that all is well. -/
theorem powerService_refines_killall :
    let xs : List (ServiceInput × Answers) := [(.call 1000 5 (.powerOn (some 1)), working), (.call 1000 6 .killall, working)]
    (powerService true .endless .refusing).run State.init xs =
        daemon.run State.init [(.powerOn 1000 5 (some 1), working), (.killall 1000, working)] ∧
      (powerService false .endless .refusing).run State.init xs = daemon.run State.init [(.powerOn 1000 5 (some 1), working)] :=
  ⟨(powerService_refines true .endless .refusing (fun _ _ _ _ => rfl) State.init _).1,
    (powerService_refines false .endless .refusing (fun _ _ _ _ => rfl) State.init _).1⟩

/-! ## Each client for itself -/

/-- The input is the client's own: an authorised `powerOn` or `powerOff` of its process, or the notice of its death. -/
def ServiceInput.Concerns (pid : Pid) : ServiceInput → Prop
  | .call uid p m => p = pid ∧ uidAllowed uid = true ∧ (m = .powerOff ∨ ∃ notifier, m = .powerOn notifier)
  | .notice mPid => mPid = pid

/-- The entry of a pid is touched by no operation on the holds of another. -/
theorem ClientsExit.entry {s s' : State} {r : Request} {ret : Int} (h : ClientsExit s r ret s') {pid : Pid}
    (ha : holdOp r ret ≠ .acquire pid) (hr : holdOp r ret ≠ .release pid) (hc : holdOp r ret ≠ .cancel pid)
    (hall : holdOp r ret ≠ .cancelAll) : s'.pidsMap[pid]? = s.pidsMap[pid]? := by
  cases h with
  | kept hop hs => rw [hs.pidsMap]
  | acquired p cb hop hs =>
    have hne : p ≠ pid := fun he => ha (he ▸ hop)
    rw [hs.pidsMap]
    simp only [registered, PidsMap.addHold]
    split <;> rw [Std.ExtTreeMap.getElem?_insert, if_neg (by simpa using hne)]
  | absent p hop hm hs => rw [hs.pidsMap]
  | oneOfSeveral p d hop hm _ hs =>
    have hne : p ≠ pid := fun he => hr (he ▸ hop)
    rw [hs.pidsMap, countedDown, Std.ExtTreeMap.getElem?_insert, if_neg (by simpa using hne)]
  | lastOne p d hop hm _ hs =>
    have hne : p ≠ pid := fun he => hr (he ▸ hop)
    rw [hs.pidsMap, released, Std.ExtTreeMap.getElem?_erase, if_neg (by simpa using hne)]
  | cleared hop => exact absurd hop hall
  | erased p hop hs =>
    have hne : p ≠ pid := fun he => hc (he ▸ hop)
    rw [hs.pidsMap, State.unregister_pidsMap, Std.ExtTreeMap.getElem?_erase, if_neg (by simpa using hne)]

/-- A request that the stub passes on leaves the entries of all pids that it does not concern. -/
theorem passedOn_entry (s : State) {x : ServiceInput × Answers} {y : Request × Answers} (hy : passedOn false x = some y) {pid : Pid}
    (hpid : ¬x.1.Concerns pid) : (daemon.next s y).pidsMap[pid]? = s.pidsMap[pid]? := by
  rcases x with ⟨i, a⟩
  cases i with
  | notice mPid =>
    cases hy
    have hne : mPid ≠ pid := hpid
    refine (handle_clients s (.binderDied mPid) a).entry ?_ ?_ ?_ ?_
    · simp [holdOp]
    · simp [holdOp]
    · exact fun he => hne (HoldOp.cancel.inj he)
    · simp [holdOp]
  | call uid p m =>
    cases m with
    | powerOn notifier =>
      cases hy
      show (powerOn s uid p notifier a).state.pidsMap[pid]? = _
      rcases powerOn_cases s uid p notifier a with ⟨-, hsame⟩ | ⟨-, hadm, cb, -, -, hst⟩
      · rw [hsame.pidsMap]
      · have hne : p ≠ pid := fun he => hpid ⟨he, hadm.2.1, Or.inr ⟨notifier, rfl⟩⟩
        rw [hst]
        simp only [registered, admittedState, PidsMap.addHold]
        split <;> rw [Std.ExtTreeMap.getElem?_insert, if_neg (by simpa using hne)]
    | powerOff =>
      cases hy
      refine (handle_clients s (.powerOff uid p) a).entry ?_ ?_ ?_ ?_
      · simp only [holdOp]
        split_ifs <;> simp
      · simp only [holdOp]
        split_ifs with hu
        · exact fun he => hpid ⟨HoldOp.release.inj he, hu, Or.inl rfl⟩
        · simp
      · simp only [holdOp]
        split_ifs <;> simp
      · simp only [holdOp]
        split_ifs <;> simp
    | getState =>
      cases hy
      refine (handle_clients s .getState a).entry ?_ ?_ ?_ ?_ <;> simp [holdOp]
    | killall => cases hy
    | geteSEBindingStatus =>
      cases hy
      rfl

/-- In every step of the build without `eSEClient_Debug`: a client that it does not concern stays registered as it is, and while it is,
the eSE is not switched off. -/
theorem powerService_spares (mem : Allocator) (base : BBinder Binder) (s : State) (x : ServiceInput × Answers) {pid : Pid}
    (hpid : ¬x.1.Concerns pid) : ((powerService false mem base).next s x).pidsMap[pid]? = s.pidsMap[pid]? ∧
      (s.pidsMap[pid]? ≠ none → ∀ c ∈ ((powerService false mem base).out s x).2, c.isPowerOff = false) := by
  rw [powerService_next, powerService_calls]
  cases hy : passedOn false x with
  | none => exact ⟨rfl, fun _ c hc => absurd hc List.not_mem_nil⟩
  | some y =>
    have hentry := passedOn_entry s hy hpid
    refine ⟨hentry, fun hreg c hc => ?_⟩
    rw [← Bool.not_eq_true]
    intro hoff
    obtain ⟨d, hd⟩ := Option.ne_none_iff_exists'.1 hreg
    have hempty : (daemon.next s y).pidsMap.isEmpty = true := handle_empties hc hoff
    rw [isEmpty_eq_false_of_getElem? (hentry.trans hd)] at hempty
    cases hempty

/-- Whatever clients call, in whatever order and whatever the device and Binder answer, in the build without `eSEClient_Debug`: as long
as a run has no authorised `powerOn` or `powerOff` of a process and no notice of its death, its entry is what it was; and if it is
registered, the eSE is never switched off. -/
theorem powerService_private (mem : Allocator) (base : BBinder Binder) (s : State) (xs : List (ServiceInput × Answers)) (pid : Pid)
    (hxs : ∀ x ∈ xs, ¬x.1.Concerns pid) :
    ((powerService false mem base).run s xs).pidsMap[pid]? = s.pidsMap[pid]? ∧
      (s.pidsMap[pid]? ≠ none → ∀ o ∈ (powerService false mem base).outs s xs, ∀ c ∈ o.2, c.isPowerOff = false) := by
  induction xs generalizing s with
  | nil => exact ⟨rfl, fun _ o ho => absurd ho List.not_mem_nil⟩
  | cons x xs ih =>
    obtain ⟨hentry, hstep⟩ := powerService_spares mem base s x (hxs x List.mem_cons_self)
    obtain ⟨hrun, hrest⟩ := ih ((powerService false mem base).next s x) fun y hy => hxs y (List.mem_cons_of_mem _ hy)
    refine ⟨hrun.trans hentry, fun hreg o ho => ?_⟩
    rcases List.mem_cons.1 ho with rfl | ho
    · exact hstep hreg
    · exact hrest (hentry ▸ hreg) o ho

/-- Another client tries everything: `killall`, `powerOff`, and its own death. -/
theorem powerService_private_attacked :
    let s := (powerOn State.init 1000 5 (some 1) working).state
    let xs : List (ServiceInput × Answers) :=
      [(.call 1000 6 .killall, working), (.call 1000 6 .powerOff, working), (.notice 6, working), (.call 10057 5 .powerOff, working)]
    ((powerService false .endless .refusing).run s xs).pidsMap[(5 : Pid)]? = s.pidsMap[(5 : Pid)]? ∧
      ∀ o ∈ (powerService false .endless .refusing).outs s xs, ∀ c ∈ o.2, c.isPowerOff = false := by
  intro s xs
  have hxs : ∀ x ∈ xs, ¬x.1.Concerns 5 := by
    intro x hx
    simp only [xs, List.mem_cons, List.not_mem_nil, or_false] at hx
    rcases hx with rfl | rfl | rfl | rfl
    · exact fun h => absurd h.1 (by decide)
    · exact fun h => absurd h.1 (by decide)
    · exact fun h => absurd (show (6 : Pid) = 5 from h) (by decide)
    · exact fun h => absurd h.2.1 (by decide)
  obtain ⟨hentry, hoff⟩ := powerService_private .endless .refusing s xs 5 hxs
  have hreg : s.pidsMap[(5 : Pid)]? ≠ none := by decide
  exact ⟨hentry, hoff hreg⟩

end EseManager
