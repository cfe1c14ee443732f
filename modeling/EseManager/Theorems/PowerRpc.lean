import EseManager.Lemmas.PowerRpc

/-!
# What a proxy returns and what the server has done

A stub that dispatches a call answers with an exception code and a value, and the proxy reads that value back. The stub of the
power manager also answers `NO_ERROR` when it has dispatched nothing, with an empty reply, out of which the proxy reads zero: so
`killall`, whose case is compiled out, looks like a success. The stub of the callbacks never answers `NO_ERROR` to a call that it
has dispatched. `powerRpc_faithful_iff` says where the stubs and proxies agree.
-/

namespace EseManager

open Ipc

/-- The status is `NO_ERROR` exactly when something was dispatched. -/
def Agrees {α : Type} (status : Int) (dispatched : List α) : Prop := status = noError ↔ dispatched ≠ []

/-- Whenever the proxy of a method returns a value that is not negative, the server has executed that method, once and nothing else,
and it is the value that it gave. -/
def Faithful (remote : PowerRemote) (impl : PowerMethod → Int32) (m : PowerMethod) : Prop :=
  0 ≤ (m.proxy remote).value → (m.proxy remote).calls = [m] ∧ (m.proxy remote).value = (impl m).toInt

/-- The proxies of the methods that the stub dispatches are faithful. -/
theorem faithful_of_ne_killall (mem : Allocator) (impl : PowerMethod → Int32) (base : BBinder Binder) {m : PowerMethod}
    (hm : m ≠ .killall) : Faithful (powerOnTransact false mem impl base) impl m := by
  obtain ⟨reply, hserve, hreply⟩ := serve_dispatched mem impl m.request_token m
  have hserved := (powerOnTransact_request mem impl base hm).trans hserve
  intro hvalue
  rw [proxy_eq] at hvalue ⊢
  rcases hreply with rfl | hreply
  · rw [bpCall_valueReply hserved]
    exact ⟨rfl, rfl⟩
  · rw [bpCall_noMemory hserved hreply] at hvalue
    cases hvalue

/-- The proxy of `killall` returns zero, and the server has executed nothing. -/
theorem proxy_killall (mem : Allocator) (impl : PowerMethod → Int32) {base : BBinder Binder} (hbase : base.RefusesUserCodes) :
    PowerMethod.killall.proxy (powerOnTransact false mem impl base) = ⟨0, []⟩ := by
  have hrefused : base 4 PowerMethod.killall.request = (unknownTransaction, Parcel.empty) :=
    hbase 4 _ (by decide) (by decide)
  rw [proxy_eq]
  refine bpCall_empty ?_
  simp [powerOnTransact, PowerMethod.code, hrefused, transactionKillall, transactionPoweron, transactionPoweroff,
    transactionGetstate, transactionGetEseBindingStatus]

/-- The stub of the power manager answers `NO_ERROR` to every request with the right token, dispatched or not. -/
theorem powerOnTransact_agrees_iff (mem : Allocator) (impl : PowerMethod → Int32) (base : BBinder Binder) (code : UInt32)
    {data : Parcel Binder} (h : data.checkInterface ieSEPowerManager = true) :
    Agrees (powerOnTransact false mem impl base code data).status (powerOnTransact false mem impl base code data).calls ↔
      code ∈ [transactionPoweron, transactionPoweroff, transactionGetstate, transactionGetEseBindingStatus] := by
  have hserve : ∀ m, Agrees (serve mem impl data m).status (serve mem impl data m).calls := by
    intro m
    simp [Agrees, serve, h]
  unfold powerOnTransact
  split_ifs with h1 h2 h3 h4 h5
  · exact iff_of_true (hserve _) (by simp [h1])
  · exact iff_of_true (hserve _) (by simp [h2])
  · exact iff_of_true (hserve _) (by simp [h3])
  · cases h4.2
  · exact iff_of_true (hserve _) (by simp [h5])
  · refine iff_of_false ?_ (by simp [h1, h2, h3, h5])
    intro hagrees
    exact (hagrees.1 rfl) rfl

/-- The stub of the callbacks agrees when it is given a code that it does not know and that `BBinder::onTransact` refuses. -/
theorem cbOnTransact_agrees_iff (mem : Allocator) (base : BBinder Binder) (code : UInt32) {data : Parcel Binder}
    (h : data.checkInterface ieSEPowerManagerCb = true) :
    Agrees (cbOnTransact mem base code data).status (cbOnTransact mem base code data).events ↔
      code ≠ transactionNotifyCallback ∧ (base code data).1 ≠ noError := by
  unfold cbOnTransact
  by_cases hc : code = transactionNotifyCallback
  · rw [if_pos hc]
    refine iff_of_false ?_ (fun hn => hn.1 hc)
    simp [Agrees, h, unknownError, noError]
  · rw [if_neg hc]
    simp [Agrees, hc]

/-- For a stub that is built without `eSEClient_Debug`: the stub of the power manager returns `NO_ERROR` exactly for what it
dispatches if and only if the code is one of the four that it knows; that of the callbacks if and only if the code is not
`NOTIFY_CALLBACK` and is refused by `BBinder::onTransact`; and a proxy is faithful if and only if its method is not `killall`. -/
theorem powerRpc_faithful_iff (mem : Allocator) (impl : PowerMethod → Int32) (base : BBinder Binder)
    (hbase : base.RefusesUserCodes) :
    (∀ code (data : Parcel Binder), data.checkInterface ieSEPowerManager = true →
      (Agrees (powerOnTransact false mem impl base code data).status (powerOnTransact false mem impl base code data).calls ↔
        code ∈ [transactionPoweron, transactionPoweroff, transactionGetstate, transactionGetEseBindingStatus])) ∧
      (∀ code (data : Parcel Binder), data.checkInterface ieSEPowerManagerCb = true →
        (Agrees (cbOnTransact mem base code data).status (cbOnTransact mem base code data).events ↔
          code ≠ transactionNotifyCallback ∧ (base code data).1 ≠ noError)) ∧
      ∀ m, Faithful (powerOnTransact false mem impl base) impl m ↔ m ≠ .killall := by
  refine ⟨fun code data h => powerOnTransact_agrees_iff mem impl base code h,
    fun code data h => cbOnTransact_agrees_iff mem base code h, fun m => ?_⟩
  by_cases hm : m = .killall
  · subst hm
    refine iff_of_false ?_ (fun hn => hn rfl)
    intro hf
    unfold Faithful at hf
    rw [proxy_killall mem impl hbase] at hf
    obtain ⟨hcalls, -⟩ := hf (Int.le_refl 0)
    cases hcalls
  · exact iff_of_true (faithful_of_ne_killall mem impl base hm) hm

/-- `powerRpc_faithful_iff` for an implementation that refuses every call: the proxy of `powerOff` says so. -/
theorem powerRpc_faithful_iff_refusing :
    Faithful (powerOnTransact false .endless (fun _ => -1) .refusing) (fun _ => -1) .powerOff :=
  ((powerRpc_faithful_iff .endless (fun _ => -1) .refusing fun _ _ _ _ => rfl).2.2 .powerOff).2 (by decide)

/-- The proxy of `killall` gives a success that the server knows nothing of; code 9 is answered with `NO_ERROR` and dispatched to
nothing; and a callback is delivered and answered with an error. -/
theorem powerRpc_unfaithful :
    ¬Faithful (powerOnTransact false .endless (fun _ => -1) .refusing) (fun _ => -1) .killall ∧
      ¬(let o := powerOnTransact false .endless (fun _ => -1) .refusing 9 (Parcel.empty.writeInterfaceToken ieSEPowerManager)
        Agrees o.status o.calls) ∧
      ¬(let o := cbOnTransact .endless .refusing transactionNotifyCallback (Parcel.empty.writeInterfaceToken ieSEPowerManagerCb)
        Agrees o.status o.events) := by
  refine ⟨?_, ?_, ?_⟩
  · have hcalls : (PowerMethod.killall.proxy (powerOnTransact false .endless (fun _ => -1) .refusing)).calls = [] := rfl
    intro hf
    obtain ⟨h, -⟩ := hf (by decide)
    rw [hcalls] at h
    cases h
  · intro h
    exact h.1 rfl rfl
  · intro h
    cases h.2 (by decide)

end EseManager
