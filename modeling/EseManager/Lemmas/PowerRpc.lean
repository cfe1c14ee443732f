import EseManager.PowerRpc

/-!
# The messages of the power manager

What the stub of the power manager makes of the requests that the proxies send, and the proxies of its replies.
-/

namespace EseManager

open Ipc

/-! ## Replies -/

/-- The reply with a value: no exception, and the value. -/
def valueReply (v : Int32) : Parcel Binder := ⟨none, Mem.bytesOfU32 0 ++ Mem.bytesOfU32 v.toUInt32, [], ok⟩

/-- What the stub makes of a dispatched call whose reply gets its memory. -/
theorem serve_of_grows {mem : Allocator} (hmem : ∀ n, mem.grows n = true) (impl : PowerMethod → Int32) {data : Parcel Binder}
    (h : data.checkInterface ieSEPowerManager = true) (m : PowerMethod) :
    serve mem impl data m = ⟨noError, valueReply (impl m), [m]⟩ := by
  simp [serve, h, Parcel.writeNoException, Parcel.writeInt32_of_grows hmem, Parcel.empty, valueReply]

/-- What the stub makes of a dispatched call: the reply has the value, or could not be written, and is not sent. -/
theorem serve_dispatched (mem : Allocator) (impl : PowerMethod → Int32) {data : Parcel Binder}
    (h : data.checkInterface ieSEPowerManager = true) (m : PowerMethod) :
    ∃ reply, serve mem impl data m = ⟨noError, reply, [m]⟩ ∧ (reply = valueReply (impl m) ∨ reply.error = noMemory) := by
  simp only [serve, h, Bool.true_eq_false, if_false]
  refine ⟨_, rfl, ?_⟩
  by_cases h4 : mem.grows 4 = false
  · right
    simp [Parcel.writeNoException, Parcel.writeInt32, Parcel.empty, h4]
  · by_cases h8 : mem.grows 8 = false
    · right
      simp [Parcel.writeNoException, Parcel.writeInt32, Parcel.empty, h4, Mem.bytesOfU32, h8]
    · left
      simp [Parcel.writeNoException, Parcel.writeInt32, Parcel.empty, h4, Mem.bytesOfU32, h8, valueReply]

/-- What a proxy makes of the reply with a value. -/
theorem bpCall_valueReply {remote : PowerRemote} {code : UInt32} {data : Parcel Binder} {v : Int32} {calls : List PowerMethod}
    (h : remote code data = ⟨noError, valueReply v, calls⟩) : bpCall remote code data = ⟨v.toInt, calls⟩ := by
  have hne : (0 : UInt32) ≠ Parcel.exHasReplyHeader := by decide
  have hread := Parcel.readInt32_bytesOfU32 (β := Binder) none [] 0 v.toUInt32 []
  rw [List.append_nil] at hread
  simp [bpCall, h, answered, valueReply, noError, ok, Parcel.readExceptionCode, Parcel.readInt32_bytesOfU32, hne, hread]

/-- What a proxy makes of a reply that is not sent. -/
theorem bpCall_noMemory {remote : PowerRemote} {code : UInt32} {data : Parcel Binder} {reply : Parcel Binder}
    {calls : List PowerMethod} (h : remote code data = ⟨noError, reply, calls⟩) (hreply : reply.error = noMemory) :
    bpCall remote code data = ⟨noMemory, calls⟩ := by
  simp [bpCall, h, answered, hreply, noMemory, noError]

/-- What a proxy makes of an empty reply: zero. -/
theorem bpCall_empty {remote : PowerRemote} {code : UInt32} {data : Parcel Binder}
    (h : remote code data = ⟨noError, Parcel.empty, []⟩) : bpCall remote code data = ⟨0, []⟩ := by
  have hne : (0 : UInt32) ≠ Parcel.exHasReplyHeader := by decide
  simp [bpCall, h, answered, noError, ok, Parcel.readExceptionCode, Parcel.readInt32, Parcel.empty, hne]

/-! ## The methods -/

/-- The request that the proxy of a method sends. -/
def PowerMethod.request (m : PowerMethod) : Parcel Binder :=
  match m with
  | .powerOn notifier => (Parcel.empty.writeInterfaceToken ieSEPowerManager).writeStrongBinder notifier
  | _ => Parcel.empty.writeInterfaceToken ieSEPowerManager

/-- The transaction code of a method. -/
def PowerMethod.code : PowerMethod → UInt32
  | .powerOn _ => transactionPoweron
  | .powerOff => transactionPoweroff
  | .getState => transactionGetstate
  | .killall => transactionKillall
  | .geteSEBindingStatus => transactionGetEseBindingStatus

/-- A proxy sends its request under its code. -/
theorem proxy_eq (remote : PowerRemote) (m : PowerMethod) : m.proxy remote = bpCall remote m.code m.request := by
  cases m <;> rfl

theorem PowerMethod.request_token (m : PowerMethod) : m.request.checkInterface ieSEPowerManager = true := by
  cases m <;> simp [PowerMethod.request, Parcel.checkInterface, Parcel.writeInterfaceToken, Parcel.writeStrongBinder]

/-- The stub dispatches every request of a proxy that it has a case for. -/
theorem powerOnTransact_dispatches (debug : Bool) (mem : Allocator) (impl : PowerMethod → Int32) (base : BBinder Binder)
    {m : PowerMethod} (hm : ¬(m = .killall ∧ debug = false)) :
    powerOnTransact debug mem impl base m.code m.request = serve mem impl m.request m := by
  cases m with
  | powerOn notifier => rfl
  | powerOff => rfl
  | getState => rfl
  | killall =>
    have hd : debug = true := by simpa using hm
    rw [hd]
    rfl
  | geteSEBindingStatus => rfl

/-- The stub without `eSEClient_Debug` dispatches what the proxies send, but for `killall`. -/
theorem powerOnTransact_request (mem : Allocator) (impl : PowerMethod → Int32) (base : BBinder Binder) {m : PowerMethod}
    (hm : m ≠ .killall) : powerOnTransact false mem impl base m.code m.request = serve mem impl m.request m :=
  powerOnTransact_dispatches false mem impl base fun h => hm h.1

/-- What the proxies return when the replies get their memory, but for `killall`. -/
theorem proxy_of_grows {mem : Allocator} (hmem : ∀ n, mem.grows n = true) (impl : PowerMethod → Int32) (base : BBinder Binder)
    {m : PowerMethod} (hm : m ≠ .killall) : m.proxy (powerOnTransact false mem impl base) = ⟨(impl m).toInt, [m]⟩ := by
  rw [proxy_eq]
  exact bpCall_valueReply ((powerOnTransact_request mem impl base hm).trans (serve_of_grows hmem impl m.request_token m))

end EseManager
