import EseManager.FpTest
import EseManager.Lemmas.ManagerRpc

/-!
# Binding commands from both their callers

Java, through the native method with its buffer of 100 bytes, and `fptest`, which sends the text it is given: what reaches the client of
the fingerprint application, and what comes back.
-/

namespace EseManager

open Ipc Parcel

/-- What a command and its bytes come to: the result, and the calls of the fingerprint client. -/
def bindingDelivered (mem : Allocator) (fp : FpClient) (uid : Int) (cmdId : UInt32) (bytes : List UInt8) : Int × List FpCall :=
  let ptr := some (block bytes)
  let len := UInt32.ofNat bytes.length
  if sendCommandExAllowed uid = false then (permissionDenied, [])
  else if cmdId = getEseBinddingStatus then (fp.geteSEBindingStatus.toInt, [.geteSEBindingStatus])
  else if cmdId = startBinding then (fp.startBinding.toInt, [.startBinding])
  else if cmdId = clearBindingInfo then ((fp.clearBindingInfo (mem.at ptr) len).toInt, [.clearBindingInfo ptr len])
  else (unknownError, [])

/-- A result with the calls of the fingerprint client, in place of what the service has done. -/
def reached (uid : Int) (r : Int × List ManagerEvent) : Int × List FpCall := (r.1, r.2.flatMap (ManagerEvent.fpCalls uid))

/-- The command and the bytes that the arguments of `fptest` ask for. -/
def fptestCommand : List (List UInt8) → Option (UInt32 × List UInt8)
  | [] => some (getEseBinddingStatus, [])
  | (0x31 :: _) :: _ => some (startBinding, [])
  | (0x32 :: _) :: _ => some (getEseBinddingStatus, [])
  | (0x33 :: _) :: verifyData :: _ => some (clearBindingInfo, verifyData)
  | _ => none

/-- What `fptest` returns for its arguments. -/
def fptestStatus : List (List UInt8) → Int
  | [0x33 :: _] => -1
  | _ => 0

section

variable {mem : Allocator} (hmem : ∀ n, mem.grows n = true) (impl : PowerMethod → Int32) (powerBase : BBinder Binder)
  (t : TeeAnswers) (fp : FpClient) (uid : Int) (myParam : Int32) (managerBase : BBinder Empty) (cb : Binder) (stack : Mem)
  (newByteArray : UInt32 → Bool)
include hmem

/-- Bytes that a buffer begins with are delivered, whatever is behind them. -/
theorem reached_eseSendCommandEx (cmdId : UInt32) {buffer : Mem} {bytes : List UInt8} (hlen : bytes.length ≤ int32Max)
    (hbuf : buffer.read 0 bytes.length = bytes) :
    reached uid ((connected mem impl powerBase (eseManagerService t fp uid myParam) managerBase cb stack newByteArray).eseSendCommandEx
        cmdId buffer (UInt32.ofNat bytes.length)) = bindingDelivered mem fp uid cmdId bytes := by
  have hnat : (UInt32.ofNat bytes.length).toNat = bytes.length := by
    rw [UInt32.toNat_ofNat']
    exact Nat.mod_eq_of_lt (by unfold int32Max at hlen; omega)
  have hallocates : Allocates mem (UInt32.ofNat bytes.length).toNat := ⟨hnat.symm ▸ hlen, hmem⟩
  have heq := bpSendCommandEx_eq (eseManagerService t fp uid myParam) managerBase cmdId buffer hallocates
  rw [hnat, hbuf] at heq
  have hpd : (Int32.ofInt permissionDenied).toInt = permissionDenied := by decide
  have hue : (Int32.ofInt unknownError).toInt = unknownError := by decide
  have hcall : (connected mem impl powerBase (eseManagerService t fp uid myParam) managerBase cb stack newByteArray).eseSendCommandEx
      cmdId buffer (UInt32.ofNat bytes.length) = _ := heq
  rw [hcall]
  simp only [reached, bindingDelivered, eseManagerService, serviceSendCommandEx, List.flatMap_cons, List.flatMap_nil,
    List.append_nil, ManagerEvent.fpCalls]
  split_ifs <;> simp [hpd, hue]

theorem reached_eseSendText (cmdId : UInt32) {text : List UInt8} (hlen : text.length ≤ int32Max) :
    reached uid ((connected mem impl powerBase (eseManagerService t fp uid myParam) managerBase cb stack newByteArray).eseSendText
        cmdId text) = bindingDelivered mem fp uid cmdId text := by
  refine reached_eseSendCommandEx hmem impl powerBase t fp uid myParam managerBase cb stack newByteArray cmdId hlen ?_
  have hall := Mem.read_write stack 0 (text ++ [0])
  have hle : text.length ≤ (text ++ [(0 : UInt8)]).length := by simp
  rw [← Mem.take_read _ 0 hle]
  exact (congrArg (List.take text.length) hall).trans List.take_left

end

/-- For every manager service behind its stub, caller and memory: `native_eseSendCommandEx` delivers the bytes of an array of up to 100,
and of a null array none, and refuses a longer one with `-1` and sends nothing; `fptest` delivers the text of its arguments whatever its
length, makes no call for any other arguments, and returns `-1` only for a missing text. So the two agree on every array of up to 100
bytes. -/
theorem bindingCommands_deliver (mem : Allocator) (hmem : ∀ n, mem.grows n = true) (impl : PowerMethod → Int32)
    (powerBase : BBinder Binder) (t : TeeAnswers) (fp : FpClient) (uid : Int) (myParam : Int32) (managerBase : BBinder Empty)
    (cb : Binder) (stack : Mem) (newByteArray : UInt32 → Bool) :
    let c := connected mem impl powerBase (eseManagerService t fp uid myParam) managerBase cb stack newByteArray
    (∀ (cmdId : Int32) (bufferArray : Option JByteArray),
      let bytes := (bufferArray.map JByteArray.bytes).getD []
      if bytes.length ≤ 100 then
        reached uid (nativeEseSendCommandEx c cmdId bufferArray) = bindingDelivered mem fp uid cmdId.toUInt32 bytes
      else
        nativeEseSendCommandEx c cmdId bufferArray = (-1, [])) ∧
      ∀ args : List (List UInt8), (∀ text ∈ args, text.length ≤ int32Max) →
        (fptestMain c args).2.map (reached uid) =
            (fptestCommand args).map (fun x => bindingDelivered mem fp uid x.1 x.2) ∧
          (fptestMain c args).1 = fptestStatus args := by
  intro c
  have hsend : ∀ cmdId (buffer : Mem) (bytes : List UInt8), bytes.length ≤ int32Max → buffer.read 0 bytes.length = bytes →
      reached uid (c.eseSendCommandEx cmdId buffer (UInt32.ofNat bytes.length)) = bindingDelivered mem fp uid cmdId bytes :=
    fun cmdId _ _ hlen hbuf =>
      reached_eseSendCommandEx hmem impl powerBase t fp uid myParam managerBase cb stack newByteArray cmdId hlen hbuf
  have htext : ∀ cmdId (text : List UInt8), text.length ≤ int32Max →
      reached uid (c.eseSendText cmdId text) = bindingDelivered mem fp uid cmdId text :=
    fun cmdId _ hlen => reached_eseSendText hmem impl powerBase t fp uid myParam managerBase cb stack newByteArray cmdId hlen
  refine ⟨fun cmdId bufferArray => ?_, fun args hargs => ?_⟩
  · cases bufferArray with
    | none => exact hsend cmdId.toUInt32 _ [] (Nat.zero_le _) rfl
    | some array =>
      intro bytes
      have hnat : (UInt32.ofNat array.bytes.length).toNat = array.bytes.length := by
        rw [UInt32.toNat_ofNat']
        have hle := array.length_le
        exact Nat.mod_eq_of_lt (by unfold int32Max at hle; omega)
      have hlt : 100 < UInt32.ofNat array.bytes.length ↔ 100 < array.bytes.length := by
        rw [UInt32.lt_iff_toNat_lt, hnat]
        rfl
      have hbytes : bytes = array.bytes := rfl
      rw [hbytes]
      unfold nativeEseSendCommandEx
      dsimp only
      by_cases hlong : 100 < array.bytes.length
      · rw [if_neg (Nat.not_le.2 hlong), if_pos (hlt.2 hlong)]
      · rw [if_pos (Nat.not_lt.1 hlong), if_neg (hlt.not.2 hlong)]
        exact hsend cmdId.toUInt32 _ array.bytes array.length_le (Mem.read_write _ 0 array.bytes)
  · match args, hargs with
    | [], _ => exact ⟨congrArg some (htext _ [] (Nat.zero_le _)), rfl⟩
    | [] :: rest, _ => exact ⟨rfl, rfl⟩
    | (b :: arg) :: rest, hargs =>
      by_cases h1 : b = 0x31
      · subst h1
        exact ⟨congrArg some (htext _ [] (Nat.zero_le _)), rfl⟩
      by_cases h2 : b = 0x32
      · subst h2
        exact ⟨congrArg some (htext _ [] (Nat.zero_le _)), rfl⟩
      by_cases h3 : b = 0x33
      · subst h3
        match rest, hargs with
        | [], _ => exact ⟨rfl, rfl⟩
        | verifyData :: rest, hargs =>
          have hlen : verifyData.length ≤ int32Max := hargs _ (by simp)
          exact ⟨congrArg some (htext _ verifyData hlen), rfl⟩
      · have hmain : fptestMain c ((b :: arg) :: rest) = (0, none) := by simp [fptestMain, h1, h2, h3]
        have hcommand : fptestCommand ((b :: arg) :: rest) = none := by simp [fptestCommand, h1, h2, h3]
        have hstatus : fptestStatus ((b :: arg) :: rest) = 0 := by simp [fptestStatus, h3]
        rw [hmain, hcommand, hstatus]
        exact ⟨rfl, rfl⟩

/-- The radio clears the binding with two bytes, from Java and with `fptest 3`. -/
theorem bindingCommands_deliver_twoBytes :
    let fp : FpClient := ⟨0, 0, fun ptr len => if (ptr.map fun m => m.read 0 len.toNat) = some [0x61, 0x62] then 7 else -1⟩
    let c := connected .endless (fun _ => 0) .refusing (eseManagerService ⟨0, 0, 0, 0, 0, 0, fun _ => 0⟩ fp 1001 0) .refusing 1
      (fun _ => 0xff) fun _ => true
    let calls := [FpCall.clearBindingInfo (some (block [0x61, 0x62])) 2]
    reached 1001 (nativeEseSendCommandEx c 1095 (some ⟨[0x61, 0x62], by decide⟩)) = (7, calls) ∧
      (fptestMain c [[0x33], [0x61, 0x62]]).2.map (reached 1001) = some (7, calls) := by
  intro fp c calls
  obtain ⟨hjava, hfptest⟩ := bindingCommands_deliver .endless (fun _ => rfl) (fun _ => 0) .refusing ⟨0, 0, 0, 0, 0, 0, fun _ => 0⟩ fp
    1001 0 .refusing 1 (fun _ => 0xff) fun _ => true
  have hdelivered : bindingDelivered .endless fp 1001 1095 [0x61, 0x62] = (7, calls) := by decide
  refine ⟨(hjava 1095 (some ⟨[0x61, 0x62], by decide⟩)).trans hdelivered, ?_⟩
  exact (hfptest [[0x33], [0x61, 0x62]] (by decide)).1.trans (congrArg some hdelivered)

end EseManager
