import EseManager.Lemmas.Tee

/-!
# Which commands are read inside their buffer

A command is a `send_cmd`: a length of four bytes and up to 200 bytes behind it. `ca_sendEseCommand` takes that length from the buffer
and copies so many bytes, and never compares it with the length of the buffer. So whether it reads inside the buffer is up to the
sender, unless the exchange ends before it gets there.
-/

namespace EseManager

/-- The buffer is too short for the length, or the length is more than `tApdu` or than the buffer holds. -/
def Malformed (cmd : Mem) (cmdLen : UInt32) : Prop :=
  cmdLen.toNat < 4 ∨ 200 < embeddedLen cmd ∨ cmdLen.toNat < 4 + embeddedLen cmd

/-- Every byte of the command that is read is inside its buffer. -/
def ReadsInside (cmdLen : UInt32) (events : List TeeEvent) : Prop :=
  ∀ off len, .readCmd off len ∈ events → ∀ i < len, off + i < cmdLen.toNat

/-- What is sent are the first bytes of `tApdu`, as many as the length says. -/
def SendsApdu (cmd : Mem) (events : List TeeEvent) : Prop :=
  ∀ id input size ret, .invokeCommand id input size ret ∈ events → input = cmd.read 4 (embeddedLen cmd)

/-- A malformed command is rejected with a negative result, and nothing of it is copied. -/
def RejectsMalformed (cmd : Mem) (cmdLen : UInt32) (ret : Int32) (events : List TeeEvent) : Prop :=
  Malformed cmd cmdLen → ret < 0 ∧ ∀ off len, .storeShm .input off len ∉ events

/-- The command is parsed inside its buffer. -/
def ParsesInside (cmd : Mem) (cmdLen : UInt32) (ret : Int32) (events : List TeeEvent) : Prop :=
  ReadsInside cmdLen events ∧ SendsApdu cmd events ∧ RejectsMalformed cmd cmdLen ret events

/-- The exchange does not get to the command, or the command is well-formed, or its four bytes of length are there and no memory is
allocated for it, with a code that comes out negative. -/
def ParsingSafe (t : TeeAnswers) (cmd : Mem) (cmdLen : UInt32) (rsp : Option Mem) (rspLen : UInt32) : Prop :=
  cmdLen = 0 ∨ rsp = none ∨ rspLen = 0 ∨ t.initializeContext ≠ teecSuccess ∨ t.openSession ≠ teecSuccess ∨
    ¬Malformed cmd cmdLen ∨ 4 ≤ cmdLen.toNat ∧ t.allocateInput ≠ teecSuccess ∧ t.allocateInput ≤ 0x80000000

/-- The event reads the command, copies it or sends it. -/
@[simp]
def TeeEvent.OnCommand : TeeEvent → Prop
  | .readCmd _ _ => True
  | .invokeCommand _ _ _ _ => True
  | .storeShm .input _ _ => True
  | _ => False

/-- A result that is negative is right when the command has not been touched. -/
theorem parsesInside_of_untouched {cmd : Mem} {cmdLen : UInt32} {ret : Int32} {events : List TeeEvent} (hret : ret < 0)
    (h : ∀ e ∈ events, ¬e.OnCommand) : ParsesInside cmd cmdLen ret events := by
  refine ⟨?_, ?_, fun _ => ⟨hret, ?_⟩⟩
  · intro off len hmem
    exact absurd trivial (h _ hmem)
  · intro id input size ret hmem
    exact absurd trivial (h _ hmem)
  · intro off len hmem
    exact h _ hmem trivial

/-- An exchange that ends before the command is copied. -/
theorem parsesInside_sized_iff {cmd : Mem} {cmdLen : UInt32} {r : TeecResult} {events : List TeeEvent}
    (h : ∀ e ∈ events, e.OnCommand → e = .readCmd 0 4) (hsized : .readCmd 0 4 ∈ events) :
    ParsesInside cmd cmdLen (caReturn r) events ↔
      ¬Malformed cmd cmdLen ∨ 4 ≤ cmdLen.toNat ∧ r ≠ teecSuccess ∧ r ≤ 0x80000000 := by
  rw [← caReturn_neg_iff]
  have hcopied : ∀ off len, .storeShm .input off len ∉ events := by
    intro off len hmem
    cases h _ hmem trivial
  constructor
  · rintro ⟨hreads, -, hreject⟩
    by_cases hm : Malformed cmd cmdLen
    · exact Or.inr ⟨hreads 0 4 hsized 3 (by omega), (hreject hm).1⟩
    · exact Or.inl hm
  · intro hsafe
    have hlen : 4 ≤ cmdLen.toNat := by
      rcases hsafe with hm | hm
      · simp only [Malformed, not_or, Nat.not_lt] at hm
        exact hm.1
      · exact hm.1
    refine ⟨?_, ?_, fun hm => ⟨?_, hcopied⟩⟩
    · intro off len hmem i hi
      cases h _ hmem trivial
      omega
    · intro id input size ret hmem
      cases h _ hmem trivial
    · exact (hsafe.resolve_left (not_not.2 hm)).2

/-- An exchange in which the command is copied. -/
theorem parsesInside_copied_iff {cmd : Mem} {cmdLen : UInt32} {ret : Int32} {events : List TeeEvent}
    (hcopied : ∃ off len, .storeShm .input off len ∈ events)
    (hreads : ∀ off len, .readCmd off len ∈ events → (off = 0 ∧ len = 4) ∨ (off = 4 ∧ len = embeddedLen cmd))
    (hsent : SendsApdu cmd events) : ParsesInside cmd cmdLen ret events ↔ ¬Malformed cmd cmdLen := by
  constructor
  · rintro ⟨-, -, hreject⟩ hm
    obtain ⟨off, len, hmem⟩ := hcopied
    exact (hreject hm).2 off len hmem
  · intro hm
    have hm' := hm
    simp only [Malformed, not_or, Nat.not_lt] at hm'
    refine ⟨fun off len hmem i hi => ?_, hsent, fun h => absurd h hm⟩
    rcases hreads off len hmem with ⟨rfl, rfl⟩ | ⟨rfl, rfl⟩
    · omega
    · omega

/-- For every command buffer, its length, the buffer for the response and every behaviour of the TEE: `ca_sendEseCommand` reads inside
the buffer, sends the first bytes of `tApdu` and rejects a malformed command before copying anything, exactly when the exchange does
not get to the command, or the command is well-formed, or no memory is allocated for it. -/
theorem caSendEseCommand_parses_iff (t : TeeAnswers) (cmd : Mem) (cmdLen : UInt32) (rsp : Option Mem) (rspLen : UInt32) :
    ParsesInside cmd cmdLen (caSendEseCommand t (some cmd) cmdLen rsp rspLen).ret
        (caSendEseCommand t (some cmd) cmdLen rsp rspLen).events ↔
      ParsingSafe t cmd cmdLen rsp rspLen := by
  unfold ParsingSafe
  rcases rsp with _ | rsp
  · have hnil : ParsesInside cmd cmdLen (-1) [] := parsesInside_of_untouched (by decide) (by simp)
    exact iff_of_true hnil (by simp)
  by_cases hc : cmdLen = 0
  · subst hc
    have hnil : ParsesInside cmd 0 (-1) [] := parsesInside_of_untouched (by decide) (by simp)
    exact iff_of_true hnil (Or.inl rfl)
  by_cases hr : rspLen = 0
  · subst hr
    have hnil : ParsesInside cmd cmdLen (-1) [] := parsesInside_of_untouched (by decide) (by simp)
    exact iff_of_true (by simpa [caSendEseCommand] using hnil) (by simp)
  obtain ⟨hret, hevents⟩ := caSendEseCommand_exchange t cmd rsp hc hr
  rw [hret, hevents]
  have hexit : ExchangeExit t _ _ _ _ _ _ (sendExchange t cmd rspLen) := exchange_exit ..
  generalize sendExchange t cmd rspLen = r at hexit ⊢
  cases hexit with
  | noContext h =>
    have hneg : caReturn initContextFailed < 0 := by decide
    exact iff_of_true (parsesInside_of_untouched hneg (by simp)) (by simp [h])
  | noSession hi h =>
    have hneg : caReturn openSessionFailed < 0 := by decide
    exact iff_of_true (parsesInside_of_untouched hneg (by simp)) (by simp [h])
  | noInput hi ho h =>
    rw [parsesInside_sized_iff (by simp) (by simp)]
    simp [hc, hr, hi, ho, h]
  | noOutput hi ho ha h =>
    rw [parsesInside_copied_iff ⟨0, (cmd.readU32 0).toNat, by simp⟩ (by simp) (by simp +contextual [SendsApdu])]
    simp [hc, hr, hi, ho, ha]
  | notInvoked hi ho ha hao h =>
    rw [parsesInside_copied_iff ⟨0, (cmd.readU32 0).toNat, by simp⟩ (by simp) (by simp +contextual [SendsApdu])]
    simp [hc, hr, hi, ho, ha]
  | completed h =>
    obtain ⟨hi, ho, ha, -, -⟩ := h
    rw [parsesInside_copied_iff ⟨0, (cmd.readU32 0).toNat, by simp⟩ (by simp) (by simp +contextual [SendsApdu])]
    simp [hc, hr, hi, ho, ha]

/-- A command of four bytes that says it has eight more: they are read from behind its buffer, and sent. -/
theorem caSendEseCommand_reads_outside :
    let cmd := Mem.write (fun _ => 0) 0 [8]
    let t : TeeAnswers := ⟨0, 0, 0, 0, 0, 2, fun _ => 0x90⟩
    Malformed cmd 4 ∧ .readCmd 4 8 ∈ (caSendEseCommand t (some cmd) 4 (some fun _ => 0) 204).events ∧
      (caSendEseCommand t (some cmd) 4 (some fun _ => 0) 204).ret = 0 ∧
      ¬ParsesInside cmd 4 (caSendEseCommand t (some cmd) 4 (some fun _ => 0) 204).ret
        (caSendEseCommand t (some cmd) 4 (some fun _ => 0) 204).events := by
  intro cmd t
  have hmalformed : Malformed cmd 4 := Or.inr (Or.inr (by decide))
  have hret : (caSendEseCommand t (some cmd) 4 (some fun _ => 0) 204).ret = 0 := by decide
  refine ⟨hmalformed, by decide, hret, fun h => ?_⟩
  have hneg := (h.2.2 hmalformed).1
  rw [hret] at hneg
  exact absurd hneg (by decide)

end EseManager
