import EseManager.Lemmas.DemoClient

/-!
# What the toggle depends on

`invoke_transmit` asks for the status of the applet and activates or deactivates it by byte 6 of the response. It does not look at how
long the response is, and `resp` still holds the response to the command before: a short response leaves the decision to that one.
-/

namespace EseManager

/-- The SET STATUS commands that are sent. -/
def setStatusSent (events : List TeeEvent) : List (List UInt8) :=
  events.filterMap fun
    | .invokeCommand commandId input _ _ => if commandId = channelTransmit ∧ input[1]? = some 0xF0 then some input else none
    | _ => none

/-- All commands succeed, and the process gets over the responses. -/
structure CrsAnswers.AllSucceed (a : CrsAnswers) : Prop where
  openChannel : a.openChannel.Taken
  getStatus : a.getStatus.Taken
  setStatus : a.setStatus.Taken
  getStatusAgain : a.getStatusAgain.Taken
  closeChannel : a.closeChannel.ret = teecSuccess

/-- The SET STATUS command of one execution is also that of the other, and it is sent only when the response to GET STATUS has byte 6. -/
def TogglesByStatus (a : CrsAnswers) (events events' : List TeeEvent) : Prop :=
  setStatusSent events = setStatusSent events' ∧ (setStatusSent events ≠ [] → 6 < a.getStatus.response.length)

/-- When all commands succeed, one SET STATUS command is sent. -/
theorem setStatusSent_eq (op : Operation) {a : CrsAnswers} (h : a.AllSucceed) :
    setStatusSent (invokeTransmit op a).2.events = [a.toggle] := by
  have hins : a.toggle[1]? = some 0xF0 := by
    unfold CrsAnswers.toggle
    split <;> rfl
  have hother : getStatusDeactive[1]? ≠ some 0xF0 := by decide
  have hopen : openLogicalChannel ≠ channelTransmit := by decide
  have hclose : closeChannel ≠ channelTransmit := by decide
  have hexit := invokeTransmit_exit op a
  generalize (invokeTransmit op a).1 = ret at hexit
  generalize (invokeTransmit op a).2.events = events at hexit ⊢
  cases hexit with
  | notOpened hn => exact absurd h.openChannel hn
  | notAsked _ hn => exact absurd h.getStatus hn
  | notToggled _ _ hn => exact absurd h.setStatus hn
  | notAskedAgain _ _ _ hn => exact absurd h.getStatusAgain hn
  | closed =>
    simp [setStatusSent, opening, asking, toggling, askingAgain, closing, received, commanded, hins, hother, hopen,
      hclose]

/-! ## The byte that decides -/

/-- A response with byte 6 decides by it. -/
theorem decisionByte_of_lt (a : CrsAnswers) (h : 6 < a.getStatus.response.length) :
    a.decisionByte = a.getStatus.response[6] :=
  Mem.write_zero_of_lt _ h

/-- A shorter one leaves the decision to the response before it. -/
theorem decisionByte_of_le (a : CrsAnswers) (h : a.getStatus.response.length ≤ 6) :
    a.decisionByte = Mem.write (fun _ => 0) 0 a.openChannel.response 6 :=
  Mem.write_zero_of_le _ h

/-- Executions with the same response, long enough, send the same command. -/
theorem toggle_congr {a b : CrsAnswers} (hg : a.getStatus.response = b.getStatus.response)
    (h : 6 < a.getStatus.response.length) : a.toggle = b.toggle := by
  have hbyte : a.decisionByte = b.decisionByte := by
    rw [decisionByte_of_lt a h, decisionByte_of_lt b (hg ▸ h)]
    simp only [hg]
  unfold CrsAnswers.toggle
  rw [hbyte]

/-! ## Short responses -/

/-- A command that succeeds with a response of these bytes. -/
def answering (bytes : List UInt8) : TaAnswer := ⟨teecSuccess, .ofNat bytes.length, Mem.write (fun _ => 0) 0 bytes, false⟩

theorem response_answering {bytes : List UInt8} (h : bytes.length < 2 ^ 32) : (answering bytes).response = bytes := by
  have hlen : (UInt32.ofNat bytes.length).toNat = bytes.length := UInt32.toNat_ofNat_of_lt' h
  simp only [answering, TaAnswer.response, hlen, Mem.read_write]

theorem answering_taken {bytes : List UInt8} (h : bytes.length ≤ respSize) : (answering bytes).Taken := by
  have hlen : (UInt32.ofNat bytes.length).toNat = bytes.length :=
    UInt32.toNat_ofNat_of_lt' (Nat.lt_of_le_of_lt h (by decide))
  exact ⟨rfl, Or.inl (by rw [answering, hlen]; exact h)⟩

/-- The exchange in which opening the channel and asking for the status give these responses. -/
def crsExchange (opened status : List UInt8) : CrsAnswers :=
  ⟨answering opened, answering status, answering [0x90, 0x00], answering [0x90, 0x00], answering []⟩

theorem crsExchange_allSucceed {opened status : List UInt8} (ho : opened.length ≤ respSize) (hs : status.length ≤ respSize) :
    (crsExchange opened status).AllSucceed :=
  ⟨answering_taken ho, answering_taken hs, answering_taken (by decide), answering_taken (by decide), rfl⟩

/-- With a short response to GET STATUS, byte 6 of the response to the opening decides. -/
theorem toggle_crsExchange {status : List UInt8} (h : status.length ≤ 6) (b : UInt8) :
    (crsExchange [0, 0, 0, 0, 0, 0, b] status).toggle = if b ≠ 0 then setStatusDeactive else setStatusActive := by
  have hstatus : (crsExchange [0, 0, 0, 0, 0, 0, b] status).getStatus.response = status := response_answering (by omega)
  have hopened : (crsExchange [0, 0, 0, 0, 0, 0, b] status).openChannel.response = [0, 0, 0, 0, 0, 0, b] :=
    response_answering (by simp)
  unfold CrsAnswers.toggle
  rw [decisionByte_of_le _ (by rw [hstatus]; exact h), hopened]
  rfl

/-- For every two executions of `invoke_transmit` in which all commands succeed, no copy of a response ends the process (none of at most
100 bytes does), and GET STATUS gets the same response: the same SET STATUS command is sent in both, and only when that response has
byte 6, exactly when the response has at least 7 bytes. With a shorter response there are two executions that send different commands. -/
theorem crs_toggle_iff (op op' : Operation) {a a' : CrsAnswers} (ha : a.AllSucceed) (ha' : a'.AllSucceed)
    (hg : a.getStatus.response = a'.getStatus.response) :
    (TogglesByStatus a (invokeTransmit op a).2.events (invokeTransmit op' a').2.events ↔ 7 ≤ a.getStatus.response.length) ∧
      (a.getStatus.response.length < 7 → ∃ b b' : CrsAnswers, b.AllSucceed ∧ b'.AllSucceed ∧
        b.getStatus.response = a.getStatus.response ∧ b'.getStatus.response = a.getStatus.response ∧
        setStatusSent (invokeTransmit op b).2.events ≠ setStatusSent (invokeTransmit op' b').2.events) := by
  refine ⟨?_, fun hlen => ?_⟩
  · unfold TogglesByStatus
    rw [setStatusSent_eq op ha, setStatusSent_eq op' ha']
    constructor
    · rintro ⟨-, honly⟩
      exact honly (by simp)
    · intro h
      exact ⟨by rw [toggle_congr hg h], fun _ => h⟩
  · have hsucceed : ∀ b : UInt8, (crsExchange [0, 0, 0, 0, 0, 0, b] a.getStatus.response).AllSucceed :=
      fun b => crsExchange_allSucceed (by simp [respSize]) (Nat.le_trans (Nat.le_of_lt hlen) (by decide))
    refine ⟨crsExchange [0, 0, 0, 0, 0, 0, 0] a.getStatus.response, crsExchange [0, 0, 0, 0, 0, 0, 1] a.getStatus.response,
      hsucceed 0, hsucceed 1, response_answering (by omega), response_answering (by omega), ?_⟩
    rw [setStatusSent_eq op (hsucceed 0), setStatusSent_eq op' (hsucceed 1), toggle_crsExchange (by omega),
      toggle_crsExchange (by omega)]
    decide

/-- `crs_toggle_iff` for a response of seven bytes, after different responses to the opening. -/
theorem crs_toggle_sevenBytes :
    TogglesByStatus (crsExchange [0, 0, 0, 0, 0, 0, 0] [1, 2, 3, 4, 5, 6, 7])
      (invokeTransmit initialOperation (crsExchange [0, 0, 0, 0, 0, 0, 0] [1, 2, 3, 4, 5, 6, 7])).2.events
      (invokeTransmit initialOperation (crsExchange [0, 0, 0, 0, 0, 0, 1] [1, 2, 3, 4, 5, 6, 7])).2.events := by
  have hstatus : ∀ opened, (crsExchange opened [1, 2, 3, 4, 5, 6, 7]).getStatus.response = [1, 2, 3, 4, 5, 6, 7] :=
    fun _ => response_answering (by simp)
  have hsame : (crsExchange [0, 0, 0, 0, 0, 0, 0] [1, 2, 3, 4, 5, 6, 7]).getStatus.response =
      (crsExchange [0, 0, 0, 0, 0, 0, 1] [1, 2, 3, 4, 5, 6, 7]).getStatus.response := by
    rw [hstatus, hstatus]
  have hiff := crs_toggle_iff initialOperation initialOperation (crsExchange_allSucceed (by decide) (by decide))
    (crsExchange_allSucceed (by decide) (by decide)) hsame
  refine hiff.1.2 ?_
  rw [hstatus]
  decide

/-- GET STATUS is answered with the two status bytes alone, in two executions: which command is sent depends on the response to the
opening. -/
theorem crs_toggle_by_stale_byte :
    setStatusSent (invokeTransmit initialOperation (crsExchange [0, 0, 0, 0, 0, 0, 0] [0x90, 0x00])).2.events = [setStatusActive] ∧
      setStatusSent (invokeTransmit initialOperation (crsExchange [0, 0, 0, 0, 0, 0, 1] [0x90, 0x00])).2.events =
        [setStatusDeactive] ∧
      ¬TogglesByStatus (crsExchange [0, 0, 0, 0, 0, 0, 0] [0x90, 0x00])
        (invokeTransmit initialOperation (crsExchange [0, 0, 0, 0, 0, 0, 0] [0x90, 0x00])).2.events
        (invokeTransmit initialOperation (crsExchange [0, 0, 0, 0, 0, 0, 1] [0x90, 0x00])).2.events := by
  have hactive : setStatusSent (invokeTransmit initialOperation (crsExchange [0, 0, 0, 0, 0, 0, 0] [0x90, 0x00])).2.events =
      [setStatusActive] := by
    rw [setStatusSent_eq _ (crsExchange_allSucceed (by decide) (by decide)), toggle_crsExchange (by decide)]
    rfl
  have hdeactive : setStatusSent (invokeTransmit initialOperation (crsExchange [0, 0, 0, 0, 0, 0, 1] [0x90, 0x00])).2.events =
      [setStatusDeactive] := by
    rw [setStatusSent_eq _ (crsExchange_allSucceed (by decide) (by decide)), toggle_crsExchange (by decide)]
    rfl
  refine ⟨hactive, hdeactive, fun h => ?_⟩
  have hsame := h.1
  rw [hactive, hdeactive] at hsame
  exact absurd hsame (by decide)

end EseManager
