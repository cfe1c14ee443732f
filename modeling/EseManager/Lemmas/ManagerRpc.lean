import EseManager.ManagerRpc

/-!
# The messages of the manager service

Each of the three methods has a message of its own: words, and a run of bytes behind them whose padding the other side has to skip.
For each case of the stub there is what it makes of the request that the proxy writes (`serveSendCommand_request` and the like), and
for each proxy what it makes of the reply (`bpSendCommand_eq` and the like).
-/

namespace EseManager

open Ipc Parcel

/-- A buffer of zeros. -/
def zeros (len : UInt32) : List UInt8 := List.replicate len.toNat 0

@[simp] theorem length_zeros (len : UInt32) : (zeros len).length = len.toNat := by
  simp [zeros]

theorem block_zeros (len : UInt32) : block (zeros len) = List.replicate (padded len.toNat) 0 := by
  have hpad := le_padded len.toNat
  rw [block, length_zeros, zeros, List.replicate_append_replicate]
  congr 1
  omega

/-- A cleared buffer in a reply: zeros, and their padding. -/
theorem cleared_room (mem : Allocator) (len : UInt32) : cleared (room mem len.toNat) len = block (zeros len) := by
  have hlen := Mem.length_read mem.fresh 0 len.toNat
  simp only [cleared, room, block, length_zeros]
  rw [List.drop_append_of_le_length (Nat.le_of_eq hlen.symm), List.drop_eq_nil_of_le (Nat.le_of_eq hlen), List.nil_append]
  rfl

/-! ## The messages -/

/-- The parcel with these bytes that a proxy sends. -/
def request (bytes : List UInt8) : Parcel Empty := ⟨some ieseManagerService, bytes, [], ok⟩

theorem managerRequest_eq : managerRequest = request [] := rfl

theorem request_token (bytes : List UInt8) : (request bytes).checkInterface ieseManagerService = true := by
  simp [checkInterface, request]

/-- The stub goes on to the case of a code when the token is right. -/
theorem managerOnTransact_request (mem : Allocator) (service : ManagerService) (base : BBinder Empty) {data : Parcel Empty}
    (h : data.checkInterface ieseManagerService = true) :
    managerOnTransact mem service base cmdSendCommand data = serveSendCommand mem service data ∧
      managerOnTransact mem service base cmdSendCommandEx data = serveSendCommandEx mem service data ∧
      managerOnTransact mem service base cmdGetcplc data = serveGetEseCplc mem service data := by
  simp [managerOnTransact, h, setSomething, getSomething, cmdSendCommand, cmdSendCommandEx, cmdGetcplc]

theorem managerOnTransact_setSomething (mem : Allocator) (service : ManagerService) (base : BBinder Empty) {data : Parcel Empty}
    (h : data.checkInterface ieseManagerService = true) :
    let a := data.readInt32.1.toInt32
    let written := (Parcel.empty : Parcel Empty).writeInt32 mem (service.setSomething a).toUInt32
    managerOnTransact mem service base setSomething data = ⟨some written.1, written.2, [.setSomething a]⟩ := by
  simp [managerOnTransact, h]

theorem managerOnTransact_getSomething (mem : Allocator) (service : ManagerService) (base : BBinder Empty) {data : Parcel Empty}
    (h : data.checkInterface ieseManagerService = true) :
    let written := (Parcel.empty : Parcel Empty).writeInt32 mem service.getSomething.toUInt32
    managerOnTransact mem service base getSomething data = ⟨some written.1, written.2, [.getSomething]⟩ := by
  simp [managerOnTransact, h, setSomething, getSomething]

/-- The stub refuses a transaction without the token, goes on to the case of its code, or leaves it to `BBinder`. -/
inductive StubExit (mem : Allocator) (service : ManagerService) (base : BBinder Empty) (code : UInt32) (data : Parcel Empty) :
    ManagerServed → Prop where
  | refused (hc : code ∈ [setSomething, getSomething, cmdSendCommand, cmdSendCommandEx, cmdGetcplc])
      (ht : data.checkInterface ieseManagerService = false) :
      StubExit mem service base code data ⟨some permissionDenied, Parcel.empty, []⟩
  | setSomething (hc : code = setSomething) (ht : data.checkInterface ieseManagerService = true) (status : Int)
      (reply : Parcel Empty) : StubExit mem service base code data ⟨some status, reply, [.setSomething data.readInt32.1.toInt32]⟩
  | getSomething (hc : code = getSomething) (ht : data.checkInterface ieseManagerService = true) (status : Int)
      (reply : Parcel Empty) : StubExit mem service base code data ⟨some status, reply, [.getSomething]⟩
  | sendCommand (hc : code = cmdSendCommand) (ht : data.checkInterface ieseManagerService = true) :
      StubExit mem service base code data (serveSendCommand mem service data)
  | sendCommandEx (hc : code = cmdSendCommandEx) (ht : data.checkInterface ieseManagerService = true) :
      StubExit mem service base code data (serveSendCommandEx mem service data)
  | getEseCplc (hc : code = cmdGetcplc) (ht : data.checkInterface ieseManagerService = true) :
      StubExit mem service base code data (serveGetEseCplc mem service data)
  | unknown (hc : code ∉ [setSomething, getSomething, cmdSendCommand, cmdSendCommandEx, cmdGetcplc]) :
      StubExit mem service base code data ⟨some (base code data).1, (base code data).2, []⟩

theorem managerOnTransact_exit (mem : Allocator) (service : ManagerService) (base : BBinder Empty) (code : UInt32)
    (data : Parcel Empty) : StubExit mem service base code data (managerOnTransact mem service base code data) := by
  by_cases hcode : code ∈ [setSomething, getSomething, cmdSendCommand, cmdSendCommandEx, cmdGetcplc]
  · cases htoken : data.checkInterface ieseManagerService with
    | false =>
      unfold managerOnTransact
      rw [if_pos ⟨hcode, htoken⟩]
      exact .refused hcode htoken
    | true =>
      obtain ⟨hsend, hsendEx, hget⟩ := managerOnTransact_request mem service base htoken
      simp only [List.mem_cons, List.not_mem_nil, or_false] at hcode
      rcases hcode with rfl | rfl | rfl | rfl | rfl
      · rw [managerOnTransact_setSomething mem service base htoken]
        exact .setSomething rfl htoken _ _
      · rw [managerOnTransact_getSomething mem service base htoken]
        exact .getSomething rfl htoken _ _
      · rw [hsend]
        exact .sendCommand rfl htoken
      · rw [hsendEx]
        exact .sendCommandEx rfl htoken
      · rw [hget]
        exact .getEseCplc rfl htoken
  · have hother := hcode
    simp only [List.mem_cons, List.not_mem_nil, or_false, not_or] at hother
    obtain ⟨h1, h2, h3, h4, h5⟩ := hother
    unfold managerOnTransact
    rw [if_neg fun h => hcode h.1, if_neg h1, if_neg h2, if_neg h3, if_neg h4, if_neg h5]
    exact .unknown hcode

/-- What comes back for a request that was served. -/
theorem managerTransact_served {remote : ManagerRemote} {code : UInt32} {bytes : List UInt8} {status : Int}
    {reply : Parcel Empty} {events : List ManagerEvent} (h : remote code (request bytes) = ⟨some status, reply, events⟩)
    (hreply : reply.error = ok) :
    managerTransact remote code (request bytes) =
      if status < 0 then (status, Parcel.empty, events) else (ok, reply, events) := by
  have hok : ¬ok < 0 := by decide
  have hdata : ¬(request bytes).error < 0 := hok
  simp only [managerTransact, hdata, if_false, h, answered, hreply, hok]
  split_ifs <;> rfl

theorem readInt32_request (x : UInt32) (rest : List UInt8) :
    (request (Mem.bytesOfU32 x ++ rest)).readInt32 = (x, request rest) :=
  readInt32_bytesOfU32 _ _ _ x rest

/-- The last item of a request: the run of bytes that was written. -/
theorem readInplace_request {bs : List UInt8} (h : bs.length ≤ int32Max) :
    (request (block bs)).readInplace bs.length = (some (block bs), request []) := by
  have hread := readInplace_block (some ieseManagerService) ([] : List (Option Empty)) ok h []
  rw [List.append_nil] at hread
  exact hread

/-- Two words and a run of bytes, as the proxies write them. -/
theorem write_request {mem : Allocator} {bs : List UInt8} (h : Allocates mem bs.length) (x y : UInt32) :
    ((((managerRequest.writeInt32 mem x).2.writeInt32 mem y).2.write mem bs).2) =
      request (Mem.bytesOfU32 x ++ (Mem.bytesOfU32 y ++ block bs)) := by
  simp only [managerRequest_eq, writeInt32_of_grows h.2, write_of_allocates h]
  simp [request]

/-- A reply that begins with a buffer. -/
def replyOf (bytes rest : List UInt8) : Parcel Empty := ⟨none, bytes ++ rest, [], ok⟩

/-- The reply once the service has left its bytes in the buffer. -/
theorem store_room (mem : Allocator) (buf : Mem) (len : Nat) :
    store (β := Empty) ⟨none, [] ++ room mem len, [], ok⟩ 0 (buf.read 0 (padded len)) =
      replyOf (buf.read 0 (padded len)) [] := by
  have hlen : (room mem len).length = (buf.read 0 (padded len)).length := by
    rw [length_room, Mem.length_read]
  rw [List.nil_append, store_all none [] ok hlen, replyOf, List.append_nil]

/-- Copying the buffer of a reply out gives what the service has left there. -/
theorem read_reply (buf : Mem) {len : Nat} (h : len ≤ int32Max) (rest : List UInt8) :
    (replyOf (buf.read 0 (padded len)) rest).readInplace len =
        (some (buf.read 0 (padded len) ++ rest), replyOf [] rest) ∧
      (replyOf (buf.read 0 (padded len)) rest).read len = (ok, buf.read 0 len, replyOf [] rest) := by
  have hlen := Mem.length_read buf 0 (padded len)
  have hread := read_padded none ([] : List (Option Empty)) ok h hlen rest
  rw [Mem.take_read buf 0 (le_padded len)] at hread
  unfold replyOf
  exact ⟨readInplace_padded none [] ok h hlen rest, hread⟩

/-! ## The stub -/

section

variable {mem : Allocator} (service : ManagerService)

/-- What `CMD_SEND_COMMAND` makes of a well-formed request. -/
theorem serveSendCommand_request {cmd : List UInt8} {cmdLen rspLen : UInt32} (hlen : cmd.length = cmdLen.toNat)
    (hcmd : 0 < cmdLen) (hrsp : 0 < rspLen) (hc : Allocates mem cmdLen.toNat) (hr : Allocates mem rspLen.toNat) :
    serveSendCommand mem service (request (Mem.bytesOfU32 cmdLen ++ (Mem.bytesOfU32 rspLen ++ block cmd))) =
      let o := service.sendCommand (mem.at (some (block cmd))) cmdLen (mem.at (some (block (zeros rspLen)))) rspLen
      ⟨some o.status, replyOf (o.buf.read 0 (padded rspLen.toNat)) [],
        [.clear (some (room mem rspLen.toNat)) rspLen,
          .sendCommand (some (block cmd)) cmdLen (some (block (zeros rspLen))) rspLen]⟩ := by
  have hc0 := UInt32.pos_iff_ne_zero.1 hcmd
  have hr0 := UInt32.pos_iff_ne_zero.1 hrsp
  have hover : ¬(0xFFFFFFFF : UInt32) - cmdLen < rspLen := by
    have h1 := hc.1
    have h2 := hr.1
    have hle : cmdLen ≤ 0xFFFFFFFF := UInt32.le_iff_toNat_le.2 (Nat.le_of_lt_succ cmdLen.toNat_lt)
    rw [UInt32.lt_iff_toNat_lt, UInt32.toNat_sub_of_le _ _ hle]
    simp only [int32Max] at h1 h2
    have hmax : (0xFFFFFFFF : UInt32).toNat = 2 ^ 32 - 1 := rfl
    omega
  have hread := readInplace_request (hlen ▸ hc.1)
  rw [hlen] at hread
  simp only [serveSendCommand, readInt32_request, hover, hc0, hr0, or_self, if_false, hread, writeInplace_of_allocates hr,
    cleared_room, length_block, length_zeros, empty, store_room]

/-- What `CMD_SEND_COMMAND_EX` makes of a well-formed request. -/
theorem serveSendCommandEx_request {buffer : List UInt8} {len : UInt32} (hlen : buffer.length = len.toNat)
    (h : Allocates mem len.toNat) (cmdId : UInt32) :
    serveSendCommandEx mem service (request (Mem.bytesOfU32 cmdId ++ (Mem.bytesOfU32 len ++ block buffer))) =
      let status := service.sendCommandEx cmdId (mem.at (some (block buffer))) len
      ⟨some ok, replyOf [] (Mem.bytesOfU32 status.toUInt32), [.sendCommandEx cmdId (some (block buffer)) len]⟩ := by
  have hread := readInplace_request (hlen ▸ h.1)
  rw [hlen] at hread
  simp [serveSendCommandEx, readInt32_request, hread, writeInt32_of_grows h.2, empty, replyOf]

/-- What `CMD_GETCPLC` makes of a well-formed request: the length follows the buffer when the service succeeds. -/
theorem serveGetEseCplc_request {cplcLen : UInt32} (hpos : 0 < cplcLen) (h : Allocates mem cplcLen.toNat) :
    serveGetEseCplc mem service (request (Mem.bytesOfU32 cplcLen)) =
      let o := service.getEseCplc (mem.at (some (block (zeros cplcLen)))) cplcLen
      ⟨some o.1.status,
        replyOf (o.1.buf.read 0 (padded cplcLen.toNat)) (if o.1.status = noError then Mem.bytesOfU32 o.2 else []),
        [.clear (some (room mem cplcLen.toNat)) cplcLen, .getEseCplc (some (block (zeros cplcLen))) cplcLen]⟩ := by
  have hne := UInt32.pos_iff_ne_zero.1 hpos
  have hread := readInt32_request cplcLen []
  rw [List.append_nil] at hread
  simp only [serveGetEseCplc, hread, hne, if_false, writeInplace_of_allocates h, cleared_room, length_block, length_zeros, empty,
    store_room, writeInt32_of_grows h.2]
  split_ifs <;> simp [replyOf]

end

/-! ## The proxies -/

section

variable {mem : Allocator} (service : ManagerService) (base : BBinder Empty)

/-- What the proxy of `sendCommand` and the stub make of a call. -/
theorem bpSendCommand_eq (cmd rsp : Mem) {cmdLen rspLen : UInt32} (hcmd : 0 < cmdLen) (hrsp : 0 < rspLen)
    (hc : Allocates mem cmdLen.toNat) (hr : Allocates mem rspLen.toNat) :
    bpSendCommand mem (managerOnTransact mem service base) (some cmd) cmdLen (some rsp) rspLen =
      let sent := some (block (cmd.read 0 cmdLen.toNat))
      let o := service.sendCommand (mem.at sent) cmdLen (mem.at (some (block (zeros rspLen)))) rspLen
      ⟨some (if o.status < 0 then o.status else noError),
        if o.status < 0 then rsp else rsp.write 0 (o.buf.read 0 rspLen.toNat),
        [.clear (some (room mem rspLen.toNat)) rspLen, .sendCommand sent cmdLen (some (block (zeros rspLen))) rspLen]⟩ := by
  have hc0 := UInt32.pos_iff_ne_zero.1 hcmd
  have hr0 := UInt32.pos_iff_ne_zero.1 hrsp
  have hlen : (cmd.read 0 cmdLen.toNat).length = cmdLen.toNat := Mem.length_read _ _ _
  have hserved := (managerOnTransact_request mem service base (request_token _)).1.trans
    (serveSendCommand_request service hlen hcmd hrsp hc hr)
  simp only [bpSendCommand, hc0, hr0, or_self, if_false, write_request (hlen.symm ▸ hc)]
  rw [managerTransact_served hserved rfl]
  generalize service.sendCommand _ _ _ _ = o
  by_cases hneg : o.status < 0
  · have hne : o.status ≠ noError := Int.ne_of_lt hneg
    simp [hneg, hne]
  · have hread := (read_reply o.buf hr.1 []).1
    have htake : (o.buf.read 0 (padded rspLen.toNat) ++ []).take rspLen.toNat = o.buf.read 0 rspLen.toNat := by
      rw [List.append_nil, Mem.take_read o.buf 0 (le_padded _)]
    have hok : ok = noError := rfl
    simp only [hneg, if_false, hok, ne_eq, not_true, hread, htake]

/-- What the proxy of `sendCommandEx` and the stub make of a call. -/
theorem bpSendCommandEx_eq (cmdId : UInt32) (buffer : Mem) {len : UInt32} (h : Allocates mem len.toNat) :
    bpSendCommandEx mem (managerOnTransact mem service base) cmdId buffer len =
      let sent := some (block (buffer.read 0 len.toNat))
      ((service.sendCommandEx cmdId (mem.at sent) len).toInt, [.sendCommandEx cmdId sent len]) := by
  have hlen : (buffer.read 0 len.toNat).length = len.toNat := Mem.length_read _ _ _
  have hserved := (managerOnTransact_request mem service base (request_token _)).2.1.trans
    (serveSendCommandEx_request service hlen h cmdId)
  have hok : ¬ok < 0 := by decide
  have hne : ¬(ok ≠ noError) := by decide
  simp only [bpSendCommandEx, write_request (hlen.symm ▸ h)]
  rw [managerTransact_served hserved rfl]
  generalize service.sendCommandEx _ _ _ = status
  have hread := readInt32_bytesOfU32 (β := Empty) none [] ok status.toUInt32 []
  rw [List.append_nil] at hread
  simp only [hok, if_false, hne, replyOf, List.nil_append, hread]
  rfl

/-- What the proxy of `getEseCplc` and the stub make of a call. -/
theorem bpGetEseCplc_eq (buf : Mem) {cplcLen : UInt32} (hpos : 0 < cplcLen) (h : Allocates mem cplcLen.toNat) :
    bpGetEseCplc mem (managerOnTransact mem service base) (some buf) cplcLen =
      let o := service.getEseCplc (mem.at (some (block (zeros cplcLen)))) cplcLen
      (⟨some (if o.1.status < 0 then o.1.status else noError),
        buf.write 0 (if o.1.status < 0 then zeros cplcLen else o.1.buf.read 0 cplcLen.toNat),
        [.clear (some (room mem cplcLen.toNat)) cplcLen, .getEseCplc (some (block (zeros cplcLen))) cplcLen]⟩,
        if o.1.status < 0 then cplcLen else if o.1.status = noError then o.2 else 0) := by
  have hne := UInt32.pos_iff_ne_zero.1 hpos
  have hserved := (managerOnTransact_request mem service base (request_token _)).2.2.trans
    (serveGetEseCplc_request service hpos h)
  have hdata : (managerRequest.writeInt32 mem cplcLen).2 = request (Mem.bytesOfU32 cplcLen) := by
    rw [managerRequest_eq, writeInt32_of_grows h.2]
    rfl
  simp only [bpGetEseCplc, hne, if_false, hdata]
  rw [managerTransact_served hserved rfl]
  generalize service.getEseCplc _ _ = o
  by_cases hneg : o.1.status < 0
  · have hne : o.1.status ≠ noError := Int.ne_of_lt hneg
    simp [hneg, hne, zeros]
  · have hread := (read_reply o.1.buf h.1 (if o.1.status = noError then Mem.bytesOfU32 o.2 else [])).2
    have hwrite : (buf.write 0 (List.replicate cplcLen.toNat 0)).write 0 (o.1.buf.read 0 cplcLen.toNat) =
        buf.write 0 (o.1.buf.read 0 cplcLen.toNat) := Mem.write_write buf 0 (by simp)
    have hok : ok = noError := rfl
    have hlen : (replyOf [] (if o.1.status = noError then Mem.bytesOfU32 o.2 else [])).readInt32.1 =
        if o.1.status = noError then o.2 else 0 := by
      have hlast := readInt32_bytesOfU32 (β := Empty) none [] ok o.2 []
      rw [List.append_nil] at hlast
      split_ifs
      · rw [replyOf, List.nil_append, hlast]
      · rfl
    simp only [hneg, if_false, hok, ne_eq, not_true, hread, hwrite, hlen]

end

end EseManager
