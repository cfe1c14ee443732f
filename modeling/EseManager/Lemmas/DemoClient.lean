import EseManager.DemoClient
import Mathlib.Tactic.SplitIfs

/-!
# What the demonstration client does with an option

`invokeTransmit_exit` lists the ways out of `invoke_transmit` with their events: it opens the channel, asks for the status, sets it, asks
for it again and closes the channel, and leaves at the first command that fails or whose response the process does not outlive.
`serve_i_exit` are the ways out of `-i`.
-/

namespace EseManager

namespace Transmission

/-- A command that was copied into the input memory is what the trusted application is offered. -/
theorem input_putCommand (x : Transmission) {cmd : List UInt8} (h : cmd.length < 2 ^ 32) :
    (x.putCommand cmd).operation.input = cmd := by
  have hlen : (UInt32.ofNat cmd.length).toNat = cmd.length := UInt32.toNat_ofNat_of_lt' h
  simp only [putCommand, Operation.input, hlen, Mem.read_write]

end Transmission

/-! ## The commands -/

/-- The bytes of a response. -/
def TaAnswer.response (a : TaAnswer) : List UInt8 := a.outBuffer.read 0 a.outSize.toNat

/-- A response is copied into `resp`. -/
def received (a : TaAnswer) : List TeeEvent := [.loadShm .output 0 a.outSize.toNat, .storeRsp 0 a.response]

/-- A command with its bytes, for a response of `size`. -/
def commanded (commandId : UInt32) (cmd : List UInt8) (size : UInt32) (a : TaAnswer) : List TeeEvent :=
  [.storeShm .input 0 cmd.length, .invokeCommand commandId cmd size a.ret]

/-- What is recorded when a command is stored and given. -/
theorem events_commanded (x : Transmission) {cmd : List UInt8} (h : cmd.length < 2 ^ 32) (commandId : UInt32) (a : TaAnswer) :
    ((x.putCommand cmd).invoke commandId a).events = x.events ++ commanded commandId cmd x.operation.outSize a := by
  have hinput := x.input_putCommand h
  simp only [Transmission.invoke, hinput, commanded]
  simp [Transmission.putCommand]

/-- The response to a command is received, and the next command is given with the whole output memory for its response. -/
theorem events_next (x : Transmission) (id : UInt32) (a : TaAnswer) {cmd : List UInt8} (h : cmd.length < 2 ^ 32)
    (nextId : UInt32) (b : TaAnswer) :
    (((x.invoke id a).takeResponse.resetOutSize.putCommand cmd).invoke nextId b).events =
      (x.invoke id a).events ++ (received a ++ commanded nextId cmd bigIntLength b) := by
  rw [events_commanded _ h, ← List.append_assoc]
  rfl

/-! ## invoke_transmit -/

/-- `resp[6]` when the status is looked at: of the response to GET STATUS, or of what was in `resp` before it. -/
def CrsAnswers.decisionByte (a : CrsAnswers) : UInt8 :=
  ((Mem.write (fun _ => 0) 0 a.openChannel.response).write 0 a.getStatus.response) 6

/-- The SET STATUS command that is sent. -/
def CrsAnswers.toggle (a : CrsAnswers) : List UInt8 := if a.decisionByte ≠ 0x00 then setStatusDeactive else setStatusActive

/-- The events of OPEN_LOGICAL_CHANNEL. -/
def opening (op : Operation) (a : CrsAnswers) : List TeeEvent := commanded openLogicalChannel crsAid op.outSize a.openChannel

/-- The events of the first GET STATUS, from the response before it on. -/
def asking (a : CrsAnswers) : List TeeEvent :=
  received a.openChannel ++ commanded channelTransmit getStatusDeactive bigIntLength a.getStatus

/-- The events of SET STATUS. -/
def toggling (a : CrsAnswers) : List TeeEvent := received a.getStatus ++ commanded channelTransmit a.toggle bigIntLength a.setStatus

/-- The events of the second GET STATUS. -/
def askingAgain (a : CrsAnswers) : List TeeEvent :=
  received a.setStatus ++ commanded channelTransmit getStatusDeactive bigIntLength a.getStatusAgain

/-- The events of CLOSE_CHANNEL. -/
def closing (a : CrsAnswers) : List TeeEvent :=
  received a.getStatusAgain ++ [.invokeCommand closeChannel getStatusDeactive bigIntLength a.closeChannel.ret]

/-- The command succeeds, and the process gets over its response. -/
structure TaAnswer.Taken (a : TaAnswer) : Prop where
  ret : a.ret = teecSuccess
  copied : a.Copied

/-- The command succeeds, and the process dies in the copy of its response. -/
structure TaAnswer.Kills (a : TaAnswer) : Prop where
  ret : a.ret = teecSuccess
  not_copied : ¬a.Copied

/-- A response that is not taken has ended the process, or there is none. -/
theorem TaAnswer.kills_or_of_not_taken {a : TaAnswer} (h : ¬a.Taken) : a.Kills ∨ a.ret ≠ teecSuccess := by
  by_cases hret : a.ret = teecSuccess
  · exact Or.inl ⟨hret, fun hcopied => h ⟨hret, hcopied⟩⟩
  · exact Or.inr hret

theorem TaAnswer.Taken.not_kills {a : TaAnswer} (h : a.Taken) : ¬a.Kills := fun hk => hk.not_copied h.copied

/-- The value of `invoke_transmit` when it goes no further than a command: the process has died in the copy of the response, or the
command has failed. -/
def TaAnswer.stopValue (a : TaAnswer) : Option Int32 := if a.ret = teecSuccess then none else some a.ret.toInt32

/-- There is no value exactly when the process has died. -/
theorem TaAnswer.stopValue_eq_none_iff {a : TaAnswer} (h : ¬a.Taken) : a.stopValue = none ↔ a.Kills := by
  unfold TaAnswer.stopValue
  rcases TaAnswer.kills_or_of_not_taken h with hk | hret
  · rw [if_pos hk.ret]
    exact iff_of_true rfl hk
  · rw [if_neg hret]
    exact iff_of_false (by simp) fun hk => hret hk.ret

/-- The last that is done then. -/
def stopped (a : TaAnswer) : List TeeEvent := if a.ret = teecSuccess then received a else []

/-- What is recorded up to the death of the process is part of what would be. -/
theorem mem_received_of_mem_stopped {a : TaAnswer} {e : TeeEvent} (h : e ∈ stopped a) : e ∈ received a := by
  unfold stopped at h
  split_ifs at h
  · exact h
  · cases h

/-- A command has left `x`; with its response taken, what comes then is `rest`. -/
def takenOr (a : TaAnswer) (x : Transmission) (rest : Option Int32 × Transmission) : Option Int32 × Transmission :=
  if a.ret ≠ teecSuccess then (some a.ret.toInt32, x)
  else if ¬a.Copied then (none, x.takeResponse)
  else rest

/-- A response that is taken is gone on from. -/
theorem takenOr_of_taken {a : TaAnswer} (h : a.Taken) (x : Transmission) (rest : Option Int32 × Transmission) :
    takenOr a x rest = rest := by
  rw [takenOr, if_neg (not_not.2 h.ret), if_neg (not_not.2 h.copied)]

/-- One that is not taken is where `invoke_transmit` ends. -/
theorem takenOr_of_not_taken {a : TaAnswer} (h : ¬a.Taken) (x : Transmission) (commandId : UInt32)
    (rest : Option Int32 × Transmission) :
    (takenOr a (x.invoke commandId a) rest).1 = a.stopValue ∧
      (takenOr a (x.invoke commandId a) rest).2.events = (x.invoke commandId a).events ++ stopped a := by
  unfold takenOr TaAnswer.stopValue stopped
  by_cases hret : a.ret = teecSuccess
  · have hcopied : ¬a.Copied := fun hcopied => h ⟨hret, hcopied⟩
    rw [if_neg (not_not.2 hret), if_pos hcopied, if_pos hret, if_pos hret]
    exact ⟨rfl, rfl⟩
  · rw [if_pos hret, if_neg hret, if_neg hret, List.append_nil]
    exact ⟨rfl, rfl⟩

/-- The ways out of `invoke_transmit`. -/
inductive TransmitExit (op : Operation) (a : CrsAnswers) : Option Int32 → List TeeEvent → Prop where
  | notOpened (h : ¬a.openChannel.Taken) : TransmitExit op a a.openChannel.stopValue (opening op a ++ stopped a.openChannel)
  | notAsked (ho : a.openChannel.Taken) (h : ¬a.getStatus.Taken) :
      TransmitExit op a a.getStatus.stopValue (opening op a ++ asking a ++ stopped a.getStatus)
  | notToggled (ho : a.openChannel.Taken) (hg : a.getStatus.Taken) (h : ¬a.setStatus.Taken) :
      TransmitExit op a a.setStatus.stopValue (opening op a ++ asking a ++ toggling a ++ stopped a.setStatus)
  | notAskedAgain (ho : a.openChannel.Taken) (hg : a.getStatus.Taken) (hs : a.setStatus.Taken) (h : ¬a.getStatusAgain.Taken) :
      TransmitExit op a a.getStatusAgain.stopValue
        (opening op a ++ asking a ++ toggling a ++ askingAgain a ++ stopped a.getStatusAgain)
  | closed (ho : a.openChannel.Taken) (hg : a.getStatus.Taken) (hs : a.setStatus.Taken) (ha : a.getStatusAgain.Taken) :
      TransmitExit op a (some a.closeChannel.ret.toInt32) (opening op a ++ asking a ++ toggling a ++ askingAgain a ++ closing a)

/-- SET STATUS has 17 bytes, whichever it is. -/
theorem length_toggle (a : CrsAnswers) : a.toggle.length = 17 := by
  unfold CrsAnswers.toggle
  split <;> rfl

/-- `invoke_transmit` leaves in one of these ways. -/
theorem invokeTransmit_exit (op : Operation) (a : CrsAnswers) :
    TransmitExit op a (invokeTransmit op a).1 (invokeTransmit op a).2.events := by
  have h9 : crsAid.length < 2 ^ 32 := by decide
  have h21 : getStatusDeactive.length < 2 ^ 32 := by decide
  have h17 : a.toggle.length < 2 ^ 32 := by simp [length_toggle]
  -- what each command leaves, if it is got to
  let x₁ := ((Transmission.start op).putCommand crsAid).invoke openLogicalChannel a.openChannel
  let x₂ := (x₁.takeResponse.resetOutSize.putCommand getStatusDeactive).invoke channelTransmit a.getStatus
  let x₃ := (x₂.takeResponse.resetOutSize.putCommand a.toggle).invoke channelTransmit a.setStatus
  let x₄ := (x₃.takeResponse.resetOutSize.putCommand getStatusDeactive).invoke channelTransmit a.getStatusAgain
  let x₅ := x₄.takeResponse.resetOutSize.invoke closeChannel a.closeChannel
  have h₁ : x₁.events = opening op a := events_commanded (Transmission.start op) h9 _ _
  have h₂ : x₂.events = opening op a ++ asking a := h₁ ▸ events_next _ _ _ h21 _ _
  have h₃ : x₃.events = opening op a ++ asking a ++ toggling a := h₂ ▸ events_next _ _ _ h17 _ _
  have h₄ : x₄.events = opening op a ++ asking a ++ toggling a ++ askingAgain a := h₃ ▸ events_next _ _ _ h21 _ _
  have h₅ : x₅.events = opening op a ++ asking a ++ toggling a ++ askingAgain a ++ closing a := by
    -- the input memory still holds the last command
    have hinput : x₄.takeResponse.resetOutSize.operation.input = getStatusDeactive :=
      x₃.takeResponse.resetOutSize.input_putCommand h21
    have hinvoke : x₅.events = (x₄.events ++ received a.getStatusAgain) ++
        [.invokeCommand closeChannel x₄.takeResponse.resetOutSize.operation.input bigIntLength a.closeChannel.ret] := rfl
    rw [hinvoke, hinput, h₄, closing, ← List.append_assoc]
  have heq : invokeTransmit op a = takenOr a.openChannel x₁ (takenOr a.getStatus x₂ (takenOr a.setStatus x₃
      (takenOr a.getStatusAgain x₄ (some a.closeChannel.ret.toInt32, x₅)))) := rfl
  rw [heq]
  by_cases ho : a.openChannel.Taken
  · rw [takenOr_of_taken ho]
    by_cases hg : a.getStatus.Taken
    · rw [takenOr_of_taken hg]
      by_cases hs : a.setStatus.Taken
      · rw [takenOr_of_taken hs]
        by_cases ha : a.getStatusAgain.Taken
        · rw [takenOr_of_taken ha]
          exact h₅ ▸ .closed ho hg hs ha
        · obtain ⟨hvalue, hevents⟩ := takenOr_of_not_taken ha _ channelTransmit _
          rw [hvalue, hevents, h₄]
          exact .notAskedAgain ho hg hs ha
      · obtain ⟨hvalue, hevents⟩ := takenOr_of_not_taken hs _ channelTransmit _
        rw [hvalue, hevents, h₃]
        exact .notToggled ho hg hs
    · obtain ⟨hvalue, hevents⟩ := takenOr_of_not_taken hg _ channelTransmit _
      rw [hvalue, hevents, h₂]
      exact .notAsked ho hg
  · obtain ⟨hvalue, hevents⟩ := takenOr_of_not_taken ho _ openLogicalChannel _
    rw [hvalue, hevents, h₁]
    exact .notOpened ho

/-- Of the responses that `invoke_transmit` takes, the process does not outlive the last. -/
def CrsAnswers.Kills (a : CrsAnswers) : Prop :=
  a.openChannel.Kills ∨ a.openChannel.Taken ∧
    (a.getStatus.Kills ∨ a.getStatus.Taken ∧ (a.setStatus.Kills ∨ a.setStatus.Taken ∧ a.getStatusAgain.Kills))

/-- The process outlives `invoke_transmit` exactly when none of the responses kills it. -/
theorem invokeTransmit_isSome (op : Operation) (a : CrsAnswers) : (invokeTransmit op a).1.isSome ↔ ¬a.Kills := by
  unfold CrsAnswers.Kills
  have hexit := invokeTransmit_exit op a
  generalize (invokeTransmit op a).2.events = events at hexit
  generalize (invokeTransmit op a).1 = ret at hexit ⊢
  rw [Option.isSome_iff_ne_none]
  cases hexit with
  | notOpened h => rw [Ne, TaAnswer.stopValue_eq_none_iff h, or_iff_left fun hk => h hk.1]
  | notAsked ho h =>
    rw [Ne, TaAnswer.stopValue_eq_none_iff h, or_iff_right ho.not_kills, and_iff_right ho, or_iff_left fun hk => h hk.1]
  | notToggled ho hg h =>
    rw [Ne, TaAnswer.stopValue_eq_none_iff h, or_iff_right ho.not_kills, and_iff_right ho, or_iff_right hg.not_kills,
      and_iff_right hg, or_iff_left fun hk => h hk.1]
  | notAskedAgain ho hg hs h =>
    rw [Ne, TaAnswer.stopValue_eq_none_iff h, or_iff_right ho.not_kills, and_iff_right ho, or_iff_right hg.not_kills,
      and_iff_right hg, or_iff_right hs.not_kills, and_iff_right hs]
  | closed ho hg hs ha =>
    rw [or_iff_right ho.not_kills, and_iff_right ho, or_iff_right hg.not_kills, and_iff_right hg, or_iff_right hs.not_kills,
      and_iff_right hs]
    exact iff_of_true (by simp) ha.not_kills

/-! ## The other options -/

/-- What the trusted application reads of an APDU. -/
def offered (op : Operation) (halCmd : Mem) (halCmdLen : Nat) : List UInt8 :=
  ((Transmission.start op).resetOutSize.putCommand (halCmd.read 0 halCmdLen)).operation.input

/-- An APDU of `halCmdLen` bytes is sent, and the response is taken if that succeeds. -/
def apduEvents (halCmdLen : Nat) (input : List UInt8) (a : TaAnswer) : List TeeEvent :=
  [.storeShm .input 0 halCmdLen, .invokeCommand halTransmit input bigIntLength a.ret] ++
    if a.ret = teecSuccess then received a else []

/-- The accesses and the command of an APDU. -/
theorem mem_apduEvents {halCmdLen : Nat} {input : List UInt8} {a : TaAnswer} {e : TeeEvent} :
    e ∈ apduEvents halCmdLen input a ↔
      e = .storeShm .input 0 halCmdLen ∨ e = .invokeCommand halTransmit input bigIntLength a.ret ∨
        a.ret = teecSuccess ∧ e ∈ received a := by
  unfold apduEvents
  by_cases h : a.ret = teecSuccess
  · simp [h]
  · simp [h]

/-- `invoke_hal_transmit`: the process dies in it exactly when a response is taken that it does not outlive. -/
theorem invokeHalTransmit_eq (op : Operation) (halCmd : Mem) (halCmdLen : Nat) (a : TaAnswer) :
    ((invokeHalTransmit op halCmd halCmdLen a).1.isSome ↔ ¬a.Kills) ∧
      (invokeHalTransmit op halCmd halCmdLen a).2.events = apduEvents halCmdLen (offered op halCmd halCmdLen) a := by
  let x := (Transmission.start op).resetOutSize.putCommand (halCmd.read 0 halCmdLen)
  have hx : (x.invoke halTransmit a).events = [.storeShm .input 0 halCmdLen,
      .invokeCommand halTransmit (offered op halCmd halCmdLen) bigIntLength a.ret] := by
    have hlen : (halCmd.read 0 halCmdLen).length = halCmdLen := Mem.length_read _ _ _
    have hev : (x.invoke halTransmit a).events = [.storeShm .input 0 (halCmd.read 0 halCmdLen).length,
      .invokeCommand halTransmit (offered op halCmd halCmdLen) bigIntLength a.ret] := rfl
    rw [hev, hlen]
  have heq : invokeHalTransmit op halCmd halCmdLen a =
      takenOr a (x.invoke halTransmit a) (some a.ret.toInt32, (x.invoke halTransmit a).takeResponse) := rfl
  have htake : (x.invoke halTransmit a).takeResponse.events = (x.invoke halTransmit a).events ++ received a := rfl
  rw [heq, apduEvents]
  by_cases h : a.Taken
  · rw [takenOr_of_taken h, htake, hx, if_pos h.ret]
    exact ⟨iff_of_true rfl h.not_kills, rfl⟩
  · obtain ⟨hvalue, hevents⟩ := takenOr_of_not_taken h x halTransmit (some a.ret.toInt32, (x.invoke halTransmit a).takeResponse)
    rw [hvalue, hevents, hx, Option.isSome_iff_ne_none, Ne, TaAnswer.stopValue_eq_none_iff h]
    exact ⟨Iff.rfl, rfl⟩

/-- The event is an access of `hexchar_to_byte`. -/
@[simp]
def DemoEvent.OnArg : DemoEvent → Prop
  | .readArg _ => True
  | .storeByte _ _ => True
  | .tee _ => False

theorem hexLoop_onArg (i j : Nat) (byte : Mem) (hexstring : List UInt8) :
    ∀ e ∈ (hexLoop i j byte hexstring).events, e.OnArg := by
  induction i, j, byte, hexstring using hexLoop.induct with
  | case1 => simp [hexLoop]
  | case2 => simp [hexLoop]
  | case3 i j byte c h => simp [hexLoop, h]
  | case4 => simp [hexLoop]
  | case5 i j byte c d hexstring h ih =>
    intro e he
    simp only [hexLoop, h, if_false, List.cons_append, List.nil_append, List.mem_cons] at he
    rcases he with rfl | rfl | rfl | rfl | he
    · trivial
    · trivial
    · trivial
    · trivial
    · exact ih e he

/-- The ways out of `-i`: the argument has no end and the process dies, or the bytes that were read are sent. Then the process dies only
when it does not outlive the response. -/
inductive ApduExit (s : DemoState) (optarg : List UInt8) (a : TaAnswer) : Option DemoState × List DemoEvent → Prop where
  | died (h : (hexcharToByte optarg s.halCmd).byteLen = none) :
      ApduExit s optarg a (none, (hexcharToByte optarg s.halCmd).events)
  | sent (halCmdLen : Nat) (h : (hexcharToByte optarg s.halCmd).byteLen = some halCmdLen) (next : Option DemoState)
      (hnext : next.isSome ↔ ¬a.Kills) (input : List UInt8) :
      ApduExit s optarg a
        (next, (hexcharToByte optarg s.halCmd).events ++ (apduEvents halCmdLen input a).map .tee)

/-- An `-i` is served in one of these ways. -/
theorem serve_i_exit (s : DemoState) (optarg : List UInt8) (a : TaAnswer) : ApduExit s optarg a (s.serve (.i optarg a)) := by
  simp only [DemoState.serve]
  split
  · rename_i h
    exact .died h
  · rename_i halCmdLen h
    obtain ⟨hret, hevents⟩ := invokeHalTransmit_eq s.operation (hexcharToByte optarg s.halCmd).byte halCmdLen a
    rw [hevents]
    exact .sent halCmdLen h _ (by rw [Option.isSome_map, hret]) _

/-- What holds of the accesses to the argument, of the APDU that is sent and of the response that is taken holds of all that is done for
`-i`. -/
theorem forall_mem_serve_i {P : DemoEvent → Prop} (s : DemoState) (optarg : List UInt8) (a : TaAnswer) (harg : ∀ e, e.OnArg → P e)
    (hapdu : ∀ halCmdLen input, ∀ e ∈ apduEvents halCmdLen input a, P (.tee e)) : ∀ e ∈ (s.serve (.i optarg a)).2, P e := by
  intro e he
  have hread := hexLoop_onArg 0 0 s.halCmd optarg
  have hexit := serve_i_exit s optarg a
  generalize s.serve (.i optarg a) = r at hexit he
  cases hexit with
  | died => exact harg e (hread e he)
  | sent halCmdLen _ _ _ input =>
    rcases List.mem_append.1 he with he | he
    · exact harg e (hread e he)
    · obtain ⟨event, hevent, rfl⟩ := List.mem_map.1 he
      exact hapdu halCmdLen input event hevent

/-- The APDU is sent. -/
def ApduSent (events : List DemoEvent) : Prop := ∃ input size ret, .tee (.invokeCommand halTransmit input size ret) ∈ events

/-- Whenever `hexchar_to_byte` ends, an APDU is sent. -/
theorem apduSent_of_parsed {d : DemoState} {optarg : List UInt8} (h : (hexcharToByte optarg d.halCmd).byteLen.isSome)
    (a : TaAnswer) : ApduSent (d.serve (.i optarg a)).2 := by
  have hexit := serve_i_exit d optarg a
  generalize d.serve (.i optarg a) = r at hexit ⊢
  cases hexit with
  | died hn => simp [hn] at h
  | sent halCmdLen _ _ _ input =>
    refine ⟨input, bigIntLength, a.ret, List.mem_append_right _ (List.mem_map_of_mem ?_)⟩
    exact mem_apduEvents.2 (Or.inr (Or.inl rfl))

end EseManager
