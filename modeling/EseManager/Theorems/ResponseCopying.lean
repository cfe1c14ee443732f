import EseManager.Lemmas.Jni

/-!
# Which responses fit into their buffer

The TEE library writes the size of the response into `params[1].memref.size`, and that size may be larger than the memory that was
offered. Both functions of the client copy so many bytes, out of the output memory and into the buffer of the caller, and
`ca_sendEseCommand` puts four bytes of length before them. The native method copies as many bytes out of its own buffer as it is told.
-/

namespace EseManager

open Ipc Parcel

/-- Every byte that is stored for the caller is inside its buffer, and every byte that is read from the output memory is inside
that memory. -/
def Contained (capacity : UInt32) (events : List TeeEvent) : Prop :=
  (∀ off bytes, .storeRsp off bytes ∈ events → ∀ i < bytes.length, off + i < capacity.toNat) ∧
    ∀ off len size ret, .loadShm .output off len ∈ events → .allocateSharedMemory .output size ret ∈ events →
      ∀ i < len, off + i < size.toNat

/-- The length in the header of a response is not more than what is stored behind it. -/
def HeaderStored (events : List TeeEvent) : Prop :=
  ∀ len, .storeRsp 0 (Mem.bytesOfU32 len) ∈ events → ∃ bytes, .storeRsp 4 bytes ∈ events ∧ len.toNat ≤ bytes.length

/-- The length that is given when the command succeeds is not more than what is stored. -/
def LengthStored (len : UInt32) (events : List TeeEvent) : Prop :=
  (∃ id input size, .invokeCommand id input size teecSuccess ∈ events) →
    ∃ bytes, .storeRsp 0 bytes ∈ events ∧ len.toNat ≤ bytes.length

/-- The native method copies at most the 100 bytes of its buffer. -/
def CopiesInside (c : NativeClient) : Prop :=
  ∀ array, (nativeEseGetCplc c).value = some (some array) → array.length ≤ 100

/-! ## The client of the TEE -/

/-- Events whose accesses to the response are those of `copied`, if every call succeeds, and whose output memory has the size of the
caller's buffer. -/
structure Copies (t : TeeAnswers) (capacity : UInt32) (copied events : List TeeEvent) : Prop where
  store : ∀ off bytes, .storeRsp off bytes ∈ events ↔ t.AllSucceed ∧ .storeRsp off bytes ∈ copied
  load : ∀ off len, .loadShm .output off len ∈ events ↔ t.AllSucceed ∧ .loadShm .output off len ∈ copied
  size : ∀ size ret, .allocateSharedMemory .output size ret ∈ events → size = capacity

/-- Where the call fails, there is nothing to contain. -/
theorem Copies.contained_of_failed {t : TeeAnswers} {capacity : UInt32} {copied events : List TeeEvent}
    (h : Copies t capacity copied events) (hs : ¬t.AllSucceed) : Contained capacity events :=
  ⟨fun off bytes hmem => absurd ((h.store off bytes).1 hmem).1 hs,
    fun off len _ _ hmem => absurd ((h.load off len).1 hmem).1 hs⟩

/-- Where it succeeds, all depends on how far the copies go. -/
theorem Copies.contained_iff {t : TeeAnswers} {capacity : UInt32} {copied events : List TeeEvent}
    (h : Copies t capacity copied events) (hs : t.AllSucceed) {last : Nat}
    (hstore : ∀ off bytes, .storeRsp off bytes ∈ copied → off + bytes.length ≤ last)
    (hload : ∀ off len, .loadShm .output off len ∈ copied → off + len ≤ last)
    (hlast : last = 0 ∨ ∃ off bytes, .storeRsp off bytes ∈ copied ∧ 0 < bytes.length ∧ off + bytes.length = last) :
    Contained capacity events ↔ last ≤ capacity.toNat := by
  constructor
  · rintro ⟨hstored, -⟩
    rcases hlast with rfl | ⟨off, bytes, hmem, hpos, hlast⟩
    · exact Nat.zero_le _
    · have hlt := hstored off bytes ((h.store off bytes).2 ⟨hs, hmem⟩) (bytes.length - 1) (by omega)
      omega
  · intro hle
    refine ⟨fun off bytes hmem i hi => ?_, fun off len size ret hmem halloc i hi => ?_⟩
    · have hend := hstore off bytes ((h.store off bytes).1 hmem).2
      omega
    · have hend := hload off len ((h.load off len).1 hmem).2
      rw [h.size size ret halloc]
      omega

theorem sendExchange_copies (t : TeeAnswers) (cmd : Mem) (rspLen : UInt32) :
    Copies t rspLen [.storeRsp 0 (Mem.bytesOfU32 t.outSize), .loadShm .output 0 t.outSize.toNat,
      .storeRsp 4 (t.outBuffer.read 0 t.outSize.toNat)] (sendExchange t cmd rspLen).2 where
  store _ _ := exchange_onResponse_iff t _ _ _ _ (by simp) (by simp) trivial
  load _ _ := exchange_onResponse_iff t _ _ _ _ (by simp) (by simp) trivial
  size _ _ h := size_of_allocated (by simp) (by simp) (by simp) h

/-- `ca_sendEseCommand` keeps to the buffers exactly when it does not get to the response, or the response fits behind its header. -/
theorem sendEseCommand_contained_iff (t : TeeAnswers) (cmd rsp : Mem) (cmdLen rspLen : UInt32) :
    (Contained rspLen (caSendEseCommand t (some cmd) cmdLen (some rsp) rspLen).events ∧
      HeaderStored (caSendEseCommand t (some cmd) cmdLen (some rsp) rspLen).events) ↔
      cmdLen = 0 ∨ rspLen = 0 ∨ ¬t.AllSucceed ∨ 4 + t.outSize.toNat ≤ rspLen.toNat := by
  by_cases hzero : cmdLen = 0 ∨ rspLen = 0
  · refine iff_of_true ?_ (hzero.imp_right Or.inl)
    simp [caSendEseCommand, hzero, Contained, HeaderStored]
  obtain ⟨hc, hr⟩ := not_or.1 hzero
  have hcopies := sendExchange_copies t cmd rspLen
  rw [(caSendEseCommand_exchange t cmd rsp hc hr).2, or_iff_right hc, or_iff_right hr]
  generalize (sendExchange t cmd rspLen).2 = events at hcopies ⊢
  have hstored : HeaderStored events := by
    intro len hmem
    obtain ⟨hs, hheader⟩ := (hcopies.store _ _).1 hmem
    refine ⟨t.outBuffer.read 0 t.outSize.toNat, (hcopies.store _ _).2 ⟨hs, by simp⟩, ?_⟩
    have hlen : len = t.outSize := Mem.bytesOfU32_injective (by simpa using hheader)
    rw [hlen, Mem.length_read]
  rw [and_iff_left hstored]
  by_cases hs : t.AllSucceed
  · rw [or_iff_right (not_not.2 hs)]
    have hstore : ∀ off bytes, .storeRsp off bytes ∈ [TeeEvent.storeRsp 0 (Mem.bytesOfU32 t.outSize),
        .loadShm .output 0 t.outSize.toNat, .storeRsp 4 (t.outBuffer.read 0 t.outSize.toNat)] →
        off + bytes.length ≤ 4 + t.outSize.toNat := by
      intro off bytes hmem
      simp only [List.mem_cons, TeeEvent.storeRsp.injEq, List.not_mem_nil, or_false, reduceCtorEq, false_or] at hmem
      rcases hmem with ⟨rfl, rfl⟩ | ⟨rfl, rfl⟩
      · simp
      · simp
    refine hcopies.contained_iff hs hstore (by simp) (Or.inr ?_)
    by_cases hsize : t.outSize.toNat = 0
    · exact ⟨0, Mem.bytesOfU32 t.outSize, by simp, by simp, by simp [hsize]⟩
    · exact ⟨4, t.outBuffer.read 0 t.outSize.toNat, by simp, by simpa using Nat.pos_of_ne_zero hsize, by simp⟩
  · exact iff_of_true (hcopies.contained_of_failed hs) (Or.inl hs)

theorem cplcExchange_copies (t : TeeAnswers) (cplcLen : UInt32) :
    Copies t cplcLen [.loadShm .output 0 t.outSize.toNat, .storeRsp 0 (t.outBuffer.read 0 t.outSize.toNat)]
      (cplcExchange t cplcLen).2 where
  store _ _ := exchange_onResponse_iff t _ _ _ _ (by simp) (by simp) trivial
  load _ _ := exchange_onResponse_iff t _ _ _ _ (by simp) (by simp) trivial
  size _ _ h := size_of_allocated (by simp) (by simp) (by simp) h

/-- `ca_getEseCplc` keeps to the buffers exactly when it does not get to the response, or the response fits. -/
theorem getEseCplc_contained_iff (t : TeeAnswers) (buf : Mem) (cplcLen : UInt32) :
    (Contained cplcLen (caGetEseCplc t (some buf) cplcLen).1.events ∧
      LengthStored (caGetEseCplc t (some buf) cplcLen).2 (caGetEseCplc t (some buf) cplcLen).1.events) ↔
      cplcLen = 0 ∨ ¬t.AllSucceed ∨ t.outSize.toNat ≤ cplcLen.toNat := by
  by_cases hl : cplcLen = 0
  · refine iff_of_true ?_ (Or.inl hl)
    simp [caGetEseCplc, hl, Contained, LengthStored]
  obtain ⟨hevents, hlen⟩ := caGetEseCplc_exchange t buf hl
  have hcopies := cplcExchange_copies t cplcLen
  have hstored : LengthStored (caGetEseCplc t (some buf) cplcLen).2 (cplcExchange t cplcLen).2 := by
    rintro ⟨id, input, size, hmem⟩
    have hs := allSucceed_of_invoked (by simp) (by simp) hmem
    refine ⟨t.outBuffer.read 0 t.outSize.toNat, (hcopies.store _ _).2 ⟨hs, by simp⟩, ?_⟩
    rw [hlen hs, Mem.length_read]
  rw [hevents, and_iff_left hstored, or_iff_right hl]
  by_cases hs : t.AllSucceed
  · rw [or_iff_right (not_not.2 hs)]
    refine hcopies.contained_iff hs (by simp) (by simp) ?_
    by_cases hsize : t.outSize.toNat = 0
    · exact Or.inl hsize
    · exact Or.inr ⟨0, t.outBuffer.read 0 t.outSize.toNat, by simp, by simpa using Nat.pos_of_ne_zero hsize, by simp⟩
  · exact iff_of_true (hcopies.contained_of_failed hs) (Or.inl hs)

/-! ## The native method -/

/-- `native_eseGetCplc` copies at most its 100 bytes exactly when it does not get to the array, or the response has no more. -/
theorem nativeEseGetCplc_copiesInside_iff (mem : Allocator) (hmem : ∀ n, mem.grows n = true) (impl : PowerMethod → Int32)
    (powerBase : BBinder Binder) (t : TeeAnswers) (fp : FpClient) (uid : Int) (myParam : Int32) (managerBase : BBinder Empty)
    (cb : Binder) (stack : Mem) (newByteArray : UInt32 → Bool) :
    CopiesInside (connected mem impl powerBase (eseManagerService t fp uid myParam) managerBase cb stack newByteArray) ↔
      (impl (.powerOn (some cb))).toInt < 0 ∨ ¬t.AllSucceed ∨ newByteArray t.outSize = false ∨ t.outSize.toNat ≤ 100 := by
  obtain ⟨returned, hvalue, hexit⟩ := withCplc_exit hmem impl powerBase t fp uid myParam managerBase cb stack newByteArray none
    fun rCplc len => if newByteArray len = true then some (rCplc.read 0 len.toNat) else none
  have hcopies : CopiesInside (connected mem impl powerBase (eseManagerService t fp uid myParam) managerBase cb stack newByteArray) ↔
      ∀ array, returned = some array → array.length ≤ 100 := by
    have hreturned : (nativeEseGetCplc (connected mem impl powerBase (eseManagerService t fp uid myParam) managerBase cb stack
        newByteArray)).value = some returned := hvalue
    unfold CopiesInside
    simp only [hreturned, Option.some.injEq]
  rw [hcopies]
  cases hexit with
  | notPowered hpower => exact iff_of_true nofun (Or.inl hpower)
  | received hpower hs buf hbuf =>
    rw [or_iff_right hpower, or_iff_right (not_not.2 hs)]
    by_cases hgiven : newByteArray t.outSize = true
    · simp [hgiven]
    · simp [hgiven]
  | refused hs => exact iff_of_true nofun (Or.inr (Or.inl hs))
  | unreported hs buf hbuf =>
    refine iff_of_true (fun array harray => ?_) (Or.inr (Or.inl hs))
    split_ifs at harray
    cases harray
    simp

/-- For every behaviour of the TEE and every capacity: `ca_sendEseCommand` stores inside its caller's buffer, reads inside the output
memory and puts no more into the header than it has stored, exactly when it does not get to the response or the response fits behind
the header; so does `ca_getEseCplc`, whose response has no header; and `native_eseGetCplc`, over parcels that get their memory, copies
at most 100 bytes exactly when it does not get to the array or the response has no more. -/
theorem responses_contained_iff (t : TeeAnswers) :
    (∀ (cmd rsp : Mem) (cmdLen rspLen : UInt32),
      (Contained rspLen (caSendEseCommand t (some cmd) cmdLen (some rsp) rspLen).events ∧
        HeaderStored (caSendEseCommand t (some cmd) cmdLen (some rsp) rspLen).events) ↔
        cmdLen = 0 ∨ rspLen = 0 ∨ ¬t.AllSucceed ∨ 4 + t.outSize.toNat ≤ rspLen.toNat) ∧
      (∀ (buf : Mem) (cplcLen : UInt32),
        (Contained cplcLen (caGetEseCplc t (some buf) cplcLen).1.events ∧
          LengthStored (caGetEseCplc t (some buf) cplcLen).2 (caGetEseCplc t (some buf) cplcLen).1.events) ↔
          cplcLen = 0 ∨ ¬t.AllSucceed ∨ t.outSize.toNat ≤ cplcLen.toNat) ∧
      ∀ (mem : Allocator), (∀ n, mem.grows n = true) → ∀ (impl : PowerMethod → Int32) (powerBase : BBinder Binder) (fp : FpClient)
        (uid : Int) (myParam : Int32) (managerBase : BBinder Empty) (cb : Binder) (stack : Mem) (newByteArray : UInt32 → Bool),
        CopiesInside (connected mem impl powerBase (eseManagerService t fp uid myParam) managerBase cb stack newByteArray) ↔
          (impl (.powerOn (some cb))).toInt < 0 ∨ ¬t.AllSucceed ∨ newByteArray t.outSize = false ∨ t.outSize.toNat ≤ 100 :=
  ⟨sendEseCommand_contained_iff t, getEseCplc_contained_iff t, fun mem hmem impl powerBase fp uid myParam managerBase cb stack
    newByteArray => nativeEseGetCplc_copiesInside_iff mem hmem impl powerBase t fp uid myParam managerBase cb stack newByteArray⟩

/-- An exchange in which every call succeeds and the size of the response is `size`. -/
def respondsWith (size : UInt32) : TeeAnswers := ⟨0, 0, 0, 0, 0, size, fun _ => 0x90⟩

/-- `responses_contained_iff` for a response of 47 bytes: the native method copies so many. -/
theorem responses_contained_short :
    CopiesInside (connected .endless (fun _ => 0) .refusing (eseManagerService (respondsWith 47) ⟨0, 0, fun _ _ => 0⟩ 10057 0)
      .refusing 1 (fun _ => 0xff) fun _ => true) :=
  ((responses_contained_iff (respondsWith 47)).2.2 .endless (fun _ => rfl) (fun _ => 0) .refusing ⟨0, 0, fun _ _ => 0⟩ 10057 0
    .refusing 1 (fun _ => 0xff) fun _ => true).2 (Or.inr (Or.inr (Or.inr (by decide))))

/-- A response as large as the buffer of `ca_sendEseCommand` goes four bytes past its end; one that is larger than the memory that was
offered goes past the end of the buffer of `ca_getEseCplc`, and the native method copies more than its 100 bytes. -/
theorem responses_overrun :
    ¬(Contained 204 (caSendEseCommand (respondsWith 204) (some fun _ => 0) 204 (some fun _ => 0) 204).events ∧
        HeaderStored (caSendEseCommand (respondsWith 204) (some fun _ => 0) 204 (some fun _ => 0) 204).events) ∧
      ¬(Contained 100 (caGetEseCplc (respondsWith 101) (some fun _ => 0) 100).1.events ∧
        LengthStored (caGetEseCplc (respondsWith 101) (some fun _ => 0) 100).2
          (caGetEseCplc (respondsWith 101) (some fun _ => 0) 100).1.events) ∧
      ¬CopiesInside (connected .endless (fun _ => 0) .refusing
        (eseManagerService (respondsWith 101) ⟨0, 0, fun _ _ => 0⟩ 10057 0) .refusing 1 (fun _ => 0xff) fun _ => true) := by
  have hs : ∀ size, (respondsWith size).AllSucceed := fun _ => ⟨rfl, rfl, rfl, rfl, rfl⟩
  refine ⟨fun h => ?_, fun h => ?_, fun h => ?_⟩
  · rcases (sendEseCommand_contained_iff _ _ _ _ _).1 h with h | h | h | h
    · exact absurd h (by decide)
    · exact absurd h (by decide)
    · exact h (hs 204)
    · exact absurd h (by decide)
  · rcases (getEseCplc_contained_iff _ _ _).1 h with h | h | h
    · exact absurd h (by decide)
    · exact h (hs 101)
    · exact absurd h (by decide)
  · rcases (nativeEseGetCplc_copiesInside_iff _ (fun _ => rfl) _ _ _ _ _ _ _ _ _ _).1 h with h | h | h | h
    · exact absurd h (by decide)
    · exact h (hs 101)
    · cases h
    · exact absurd h (by decide)

end EseManager
