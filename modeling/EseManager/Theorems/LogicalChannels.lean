import EseManager.Lemmas.DemoClient

/-!
# Which logical channels are left open

`invoke_transmit` opens a channel first and closes it last, and between them are three commands. After any of these has failed it
returns, and the channel stays open for good: the next option opens another one. When the process dies in the copy of a response, it
does not return, there is no next option, and the session with its channels is the business of the TEE.
-/

namespace EseManager

/-- The number of channels that are open and were never asked to be closed, after an event. -/
def channelsAfter (n : Nat) : DemoEvent → Nat
  | .tee (.invokeCommand commandId _ _ ret) =>
    if commandId = openLogicalChannel ∧ ret = teecSuccess then n + 1 else if commandId = closeChannel then n - 1 else n
  | _ => n

/-- The client, with the number of channels that are left open. -/
def channels : Machine (Option DemoState × Nat) DemoOption (List DemoEvent) :=
  demo.track fun n _ events => events.foldl channelsAfter n

/-- A channel is opened. -/
def OpensChannel (events : List DemoEvent) : Prop :=
  ∃ input size, .tee (.invokeCommand openLogicalChannel input size teecSuccess) ∈ events

/-- A channel is asked to be closed. -/
def AsksToClose (events : List DemoEvent) : Prop := ∃ input size ret, .tee (.invokeCommand closeChannel input size ret) ∈ events

/-- What opens a channel, and returns, asks for it to be closed too. -/
def ClosesChannel (s : Option DemoState) (o : DemoOption) : Prop :=
  (demo.next s o).isSome → OpensChannel (demo.out s o) → AsksToClose (demo.out s o)

/-- After a channel is opened, the three commands sent through it succeed. -/
def CrsAnswers.Completes (a : CrsAnswers) : Prop :=
  a.openChannel.ret = teecSuccess →
    a.getStatus.ret = teecSuccess ∧ a.setStatus.ret = teecSuccess ∧ a.getStatusAgain.ret = teecSuccess

/-- The option is no `-c`, or the client has died or dies of a response, or the commands complete. -/
def Completes (s : Option DemoState) (o : DemoOption) : Prop :=
  match s, o with
  | some _, .c a => ¬a.Kills → a.Completes
  | _, _ => True

/-- The event neither opens nor closes a channel. -/
def DemoEvent.OffChannel (e : DemoEvent) : Prop := ∀ n, channelsAfter n e = n

/-- Events off the channels leave the count as it is. -/
theorem foldl_offChannel {events : List DemoEvent} (h : ∀ e ∈ events, e.OffChannel) (n : Nat) :
    events.foldl channelsAfter n = n := by
  induction events with
  | nil => rfl
  | cons e events ih =>
    rw [List.foldl_cons, h e (by simp)]
    exact ih fun e he => h e (List.mem_cons_of_mem _ he)

/-- The accesses of the parser are off the channels. -/
theorem offChannel_of_onArg {e : DemoEvent} (h : e.OnArg) : e.OffChannel := by
  cases e with
  | readArg => exact fun _ => rfl
  | storeByte => exact fun _ => rfl
  | tee => exact absurd h id

/-- So is every command but the two that open and close one. -/
theorem offChannel_command {commandId : UInt32} (ho : commandId ≠ openLogicalChannel) (hc : commandId ≠ closeChannel)
    (input : List UInt8) (size : UInt32) (ret : TeecResult) :
    DemoEvent.OffChannel (.tee (.invokeCommand commandId input size ret)) := by
  intro n
  simp [channelsAfter, ho, hc]

/-- So is taking a response. -/
theorem offChannel_received (a : TaAnswer) : ∀ e ∈ received a, DemoEvent.OffChannel (.tee e) := by
  intro e he
  simp only [received, List.mem_cons, List.not_mem_nil, or_false] at he
  rcases he with rfl | rfl
  · exact fun _ => rfl
  · exact fun _ => rfl

/-- A response is received, and another command is sent through the channel. -/
theorem offChannel_transmitted (a : TaAnswer) (cmd : List UInt8) (size : UInt32) (b : TaAnswer) :
    ∀ e ∈ received a ++ commanded channelTransmit cmd size b, DemoEvent.OffChannel (.tee e) := by
  intro e he
  rcases List.mem_append.1 he with he | he
  · exact offChannel_received a e he
  · simp only [commanded, List.mem_cons, List.not_mem_nil, or_false] at he
    rcases he with rfl | rfl
    · exact fun _ => rfl
    · exact offChannel_command (by decide) (by decide) cmd size b.ret

/-- So are the events of an APDU. -/
theorem offChannel_apdu (halCmdLen : Nat) (input : List UInt8) (a : TaAnswer) :
    ∀ e ∈ apduEvents halCmdLen input a, DemoEvent.OffChannel (.tee e) := by
  intro e he
  rcases mem_apduEvents.1 he with rfl | rfl | ⟨-, hreceived⟩
  · exact fun _ => rfl
  · exact offChannel_command (by decide) (by decide) input bigIntLength a.ret
  · exact offChannel_received a e hreceived

/-- What is off the channel asks for none to be closed. -/
theorem not_asksToClose {events : List TeeEvent} (h : ∀ e ∈ events, DemoEvent.OffChannel (.tee e)) :
    ¬AsksToClose (events.map .tee) := by
  rintro ⟨input, size, ret, hmem⟩
  obtain ⟨e, he, heq⟩ := List.mem_map.1 hmem
  have hclosed := h e he 1
  rw [heq] at hclosed
  exact absurd hclosed (by simp [channelsAfter, openLogicalChannel, closeChannel])

theorem foldl_offChannel_map {events : List TeeEvent} (h : ∀ e ∈ events, DemoEvent.OffChannel (.tee e)) (n : Nat) :
    (events.map DemoEvent.tee).foldl channelsAfter n = n := by
  refine foldl_offChannel (fun e he => ?_) n
  obtain ⟨event, hevent, rfl⟩ := List.mem_map.1 he
  exact h event hevent

/-! ## One option -/

/-- How an option ends for the channels. -/
inductive ChannelExit (s : Option DemoState) (o : DemoOption) (events : List DemoEvent) : Prop where
  | kept (hc : Completes s o) (hn : ∀ n, events.foldl channelsAfter n = n) (h : OpensChannel events → AsksToClose events)
  | left (hs : (demo.next s o).isSome) (hc : ¬Completes s o) (hn : ∀ n, events.foldl channelsAfter n = n + 1)
      (ho : OpensChannel events) (h : ¬AsksToClose events)
  | died (hs : (demo.next s o).isSome = false) (hc : Completes s o)

/-- The opening, if it succeeds, opens one channel and closes none. -/
theorem foldl_opening (op : Operation) {a : CrsAnswers} (h : a.openChannel.ret = teecSuccess) (n : Nat) :
    ((opening op a).map DemoEvent.tee).foldl channelsAfter n = n + 1 := by
  simp [opening, commanded, channelsAfter, h]

/-- OPEN_LOGICAL_CHANNEL opens a channel when it succeeds. -/
theorem opensChannel_opening (op : Operation) {a : CrsAnswers} (h : a.openChannel.ret = teecSuccess) (rest : List TeeEvent) :
    OpensChannel ((opening op a ++ rest).map .tee) :=
  ⟨crsAid, op.outSize, by simp [opening, commanded, h]⟩

/-- The client goes on after a `-c` exactly when no response has killed it. -/
theorem next_crs_isSome (s : DemoState) (a : CrsAnswers) : (demo.next (some s) (.c a)).isSome ↔ ¬a.Kills := by
  rw [← invokeTransmit_isSome s.operation a]
  simp [demo, DemoState.serve]

/-- The process dies. -/
theorem channelExit_died {s : DemoState} {a : CrsAnswers} (h : a.Kills) (events : List DemoEvent) :
    ChannelExit (some s) (.c a) events := by
  refine .died ?_ fun hnot => absurd h hnot
  rw [← Bool.not_eq_true, next_crs_isSome]
  exact not_not.2 h

/-- A channel is opened, and what follows does not close it. -/
theorem channelExit_left {s : DemoState} {a : CrsAnswers} {rest : List TeeEvent} (ho : a.openChannel.ret = teecSuccess)
    (hc : a.Kills ∨ ¬a.Completes) (hrest : ∀ e ∈ rest, DemoEvent.OffChannel (.tee e)) :
    ChannelExit (some s) (.c a) ((opening s.operation a ++ rest).map .tee) := by
  by_cases hk : a.Kills
  · exact channelExit_died hk _
  · refine .left ((next_crs_isSome s a).2 hk) (fun hall => hc.resolve_left hk (hall hk)) ?_
      (opensChannel_opening s.operation ho rest) ?_
    · intro n
      rw [List.map_append, List.foldl_append, foldl_opening s.operation ho, foldl_offChannel_map hrest]
    · rintro ⟨input, size, ret, hmem⟩
      rw [List.map_append] at hmem
      rcases List.mem_append.1 hmem with hmem | hmem
      · simp [opening, commanded, openLogicalChannel, closeChannel] at hmem
      · exact not_asksToClose hrest ⟨input, size, ret, hmem⟩

/-- What a `-c` does to the channels. -/
theorem channelExit_crs (s : DemoState) (a : CrsAnswers) :
    ChannelExit (some s) (.c a) ((invokeTransmit s.operation a).2.events.map .tee) := by
  have hasking : ∀ e ∈ asking a, DemoEvent.OffChannel (.tee e) := offChannel_transmitted _ _ _ _
  have htoggling : ∀ e ∈ toggling a, DemoEvent.OffChannel (.tee e) := offChannel_transmitted _ _ _ _
  have hagain : ∀ e ∈ askingAgain a, DemoEvent.OffChannel (.tee e) := offChannel_transmitted _ _ _ _
  have hstopped : ∀ b, ∀ e ∈ stopped b, DemoEvent.OffChannel (.tee e) :=
    fun b e he => offChannel_received b e (mem_received_of_mem_stopped he)
  have hexit := invokeTransmit_exit s.operation a
  generalize (invokeTransmit s.operation a).1 = ret at hexit
  generalize (invokeTransmit s.operation a).2.events = events at hexit ⊢
  cases hexit with
  | notOpened h =>
    rcases TaAnswer.kills_or_of_not_taken h with hk | hret
    · exact channelExit_died (Or.inl hk) _
    · rw [stopped, if_neg hret, List.append_nil]
      refine .kept (fun _ ho => absurd ho hret) ?_ ?_
      · simp [opening, commanded, channelsAfter, hret, openLogicalChannel, closeChannel]
      · simp [OpensChannel, opening, commanded, Ne.symm hret]
  | notAsked ho h =>
    rw [List.append_assoc]
    refine channelExit_left ho.ret ?_ (List.forall_mem_append.2 ⟨hasking, hstopped _⟩)
    exact (TaAnswer.kills_or_of_not_taken h).imp (fun hk => Or.inr ⟨ho, Or.inl hk⟩) fun hret hc => hret (hc ho.ret).1
  | notToggled ho hg h =>
    rw [List.append_assoc, List.append_assoc]
    refine channelExit_left ho.ret ?_ (List.forall_mem_append.2 ⟨hasking, List.forall_mem_append.2 ⟨htoggling, hstopped _⟩⟩)
    exact (TaAnswer.kills_or_of_not_taken h).imp (fun hk => Or.inr ⟨ho, Or.inr ⟨hg, Or.inl hk⟩⟩) fun hret hc => hret (hc ho.ret).2.1
  | notAskedAgain ho hg hs h =>
    rw [List.append_assoc, List.append_assoc, List.append_assoc]
    refine channelExit_left ho.ret ?_ (List.forall_mem_append.2 ⟨hasking, List.forall_mem_append.2 ⟨htoggling,
      List.forall_mem_append.2 ⟨hagain, hstopped _⟩⟩⟩)
    exact (TaAnswer.kills_or_of_not_taken h).imp (fun hk => Or.inr ⟨ho, Or.inr ⟨hg, Or.inr ⟨hs, hk⟩⟩⟩)
      fun hret hc => hret (hc ho.ret).2.2
  | closed ho hg hs ha =>
    refine .kept (fun _ _ => ⟨hg.ret, hs.ret, ha.ret⟩) ?_ fun _ => ?_
    · intro n
      simp only [List.map_append, List.foldl_append, foldl_opening s.operation ho.ret, foldl_offChannel_map hasking,
        foldl_offChannel_map htoggling, foldl_offChannel_map hagain]
      simp [closing, received, channelsAfter, openLogicalChannel, closeChannel]
    · exact ⟨getStatusDeactive, bigIntLength, a.closeChannel.ret, by simp [closing]⟩

/-- Events that are not about channels. -/
theorem channelExit_of_offChannel {s : Option DemoState} {o : DemoOption} {events : List DemoEvent} (hc : Completes s o)
    (h : ∀ e ∈ events, e.OffChannel) : ChannelExit s o events := by
  refine .kept hc (foldl_offChannel h) ?_
  rintro ⟨input, size, hmem⟩
  have hcount := h _ hmem 0
  simp [channelsAfter] at hcount

/-- What an option does to the channels. -/
theorem channelExit (s : Option DemoState) (o : DemoOption) : ChannelExit s o (demo.out s o) := by
  cases s with
  | none => exact channelExit_of_offChannel trivial (by simp [demo])
  | some s =>
    simp only [demo, Option.map_some, Option.getD_some]
    cases o with
    | c a => exact channelExit_crs s a
    | t a =>
      refine channelExit_of_offChannel trivial fun e he => ?_
      rw [List.mem_singleton.1 he]
      exact offChannel_command (by decide) (by decide) _ _ _
    | i optarg a =>
      refine channelExit_of_offChannel trivial ?_
      exact forall_mem_serve_i s optarg a (fun _ => offChannel_of_onArg) fun halCmdLen input => offChannel_apdu halCmdLen input a
    | unknown => exact channelExit_of_offChannel trivial (by simp [DemoState.serve])

/-- While the client lives, no channel is left open. -/
def NoneLeft (p : Option DemoState × Nat) : Prop := p.1.isSome → p.2 = 0

/-- An option keeps the number of open channels exactly when its commands complete. -/
theorem channels_step {p : Option DemoState × Nat} (h : NoneLeft p) (o : DemoOption) :
    NoneLeft (channels.next p o) ↔ Completes p.1 o := by
  obtain ⟨s, n⟩ := p
  cases s with
  | none => exact iff_of_true (fun hs => absurd hs (by simp [channels, Machine.track, demo])) trivial
  | some s =>
    have hn : n = 0 := h rfl
    subst hn
    have hexit := channelExit (some s) o
    have hnext : channels.next (some s, 0) o = (demo.next (some s) o, (demo.out (some s) o).foldl channelsAfter 0) := rfl
    rw [hnext]
    cases hexit with
    | kept hc hcount => exact iff_of_true (fun _ => hcount 0) hc
    | left hs hc hcount => exact iff_of_false (fun hleft => absurd ((hcount 0).symm.trans (hleft hs)) (by simp)) hc
    | died hs hc => exact iff_of_true (fun halive => by simp [hs] at halive) hc

/-- One option closes what it has opened exactly when it is completed. -/
theorem closesChannel_iff (s : Option DemoState) (o : DemoOption) : ClosesChannel s o ↔ Completes s o := by
  have hexit := channelExit s o
  unfold ClosesChannel
  cases hexit with
  | kept hc _ h => exact iff_of_true (fun _ => h) hc
  | left hs hc _ ho h => exact iff_of_false (fun hall => h (hall hs ho)) hc
  | died hs hc => exact iff_of_true (fun halive => by simp [hs] at halive) hc

/-- For every sequence of options and of answers to their commands: every `invoke_transmit` that has opened a channel asks for it to
be closed before it returns, exactly when in every `-c` that opens one, and in which the process does not die of a response, the three
commands sent through it succeed; and exactly then no channel is left open between any two options. -/
theorem no_channel_left_iff (t : TeeAnswers) (halCmd : Mem) (options : List DemoOption) :
    (demo.Along ClosesChannel (demoStart t halCmd).1 options ↔ demo.Along Completes (demoStart t halCmd).1 options) ∧
      (channels.Always NoneLeft ((demoStart t halCmd).1, 0) options ↔
        demo.Along Completes (demoStart t halCmd).1 options) := by
  refine ⟨demo.along_congr closesChannel_iff _ options, ?_⟩
  have hkey : channels.Always NoneLeft ((demoStart t halCmd).1, 0) options ↔
      channels.Along (fun p o => Completes p.1 o) ((demoStart t halCmd).1, 0) options :=
    Machine.always_iff_along (P := fun _ _ => True) (I := fun _ => True) (fun _ _ _ _ => trivial)
      (fun p o _ _ h => channels_step h o) trivial (fun _ => rfl) (channels.along_of_forall_mem (fun _ _ _ => trivial) _)
  rw [hkey]
  exact demo.track_along _ _ _ _ options

/-- Everything before the options succeeds. -/
def reachingOptions : TeeAnswers := ⟨0, 0, 0, 0, 0, 0, fun _ => 0⟩

/-- A channel is opened, and GET STATUS fails. -/
def statusRefused : CrsAnswers :=
  ⟨⟨0, 2, fun _ => 0x90, true⟩, ⟨teecErrorGeneric, 0, fun _ => 0, true⟩, ⟨0, 2, fun _ => 0x90, true⟩, ⟨0, 2, fun _ => 0x90, true⟩,
    ⟨0, 0, fun _ => 0, true⟩⟩

/-- Two `-c` options whose GET STATUS fails leave two channels open. -/
theorem channels_left_open :
    ¬demo.Along ClosesChannel (demoStart reachingOptions fun _ => 0).1 [.c statusRefused, .c statusRefused] ∧
      (channels.run ((demoStart reachingOptions fun _ => 0).1, 0) [.c statusRefused, .c statusRefused]).2 = 2 ∧
      ¬channels.Always NoneLeft ((demoStart reachingOptions fun _ => 0).1, 0) [.c statusRefused, .c statusRefused] := by
  have htwo : (channels.run ((demoStart reachingOptions fun _ => 0).1, 0) [.c statusRefused, .c statusRefused]).2 = 2 := rfl
  refine ⟨?_, htwo, fun h => ?_⟩
  · rintro ⟨hfirst, -⟩
    have hlives : ¬statusRefused.Kills := by
      rw [← invokeTransmit_isSome initialOperation]
      rfl
    have hcomplete := (closesChannel_iff _ _).1 hfirst hlives
    exact absurd (hcomplete rfl).1 (by decide)
  · exact absurd (htwo.symm.trans (h _ (List.prefix_refl _) rfl)) (by decide)

end EseManager
