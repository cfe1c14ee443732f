import EseManager.Lemmas.DemoClient

/-!
# The size that is offered for a response

One `TEEC_Operation` serves all commands, and each of them leaves the size of its response in `params[1].memref.size`. Before most of the
next ones the size is set back to that of the output memory; before OPEN_LOGICAL_CHANNEL and before the self test it is not.
-/

namespace EseManager

/-- If the event is a command, the size that is offered for its response is `BIG_INT_LENGTH`. -/
def DemoEvent.OffersAll : DemoEvent → Prop
  | .tee (.invokeCommand _ _ outSize _) => outSize = bigIntLength
  | _ => True

/-- The first command of the option is offered the size that it finds. -/
def DemoOption.Inherits : DemoOption → Prop
  | .c _ => True
  | .t _ => True
  | .i _ _ => False
  | .unknown => False

/-- The answer to the last command that `invoke_transmit` gives. -/
def CrsAnswers.last (a : CrsAnswers) : TaAnswer :=
  if a.openChannel.ret ≠ teecSuccess then a.openChannel
  else if a.getStatus.ret ≠ teecSuccess then a.getStatus
  else if a.setStatus.ret ≠ teecSuccess then a.setStatus
  else if a.getStatusAgain.ret ≠ teecSuccess then a.getStatusAgain
  else a.closeChannel

/-- The size that the commands of an option leave, if it finds `size`. -/
def sizeAfter (size : UInt32) : DemoOption → UInt32
  | .c a => a.last.outSize
  | .t a => a.outSize
  | .i _ a => a.outSize
  | .unknown => size

/-- The size that the commands before an option leave: all of the output memory, if there are none. -/
def sizeLeft (options : List DemoOption) : UInt32 := options.foldl sizeAfter bigIntLength

/-! ## One option -/

theorem offersAll_of_onArg {e : DemoEvent} (h : e.OnArg) : e.OffersAll := by
  cases e with
  | readArg => trivial
  | storeByte => trivial
  | tee => exact absurd h id

theorem offersAll_of_received {a : TaAnswer} {e : TeeEvent} (h : e ∈ received a) : DemoEvent.OffersAll (.tee e) := by
  simp only [received, List.mem_cons, List.not_mem_nil, or_false] at h
  rcases h with rfl | rfl
  · trivial
  · trivial

/-- A response is received, and the next command is given with the whole output memory. -/
theorem offersAll_transmitted (a : TaAnswer) (commandId : UInt32) (cmd : List UInt8) (b : TaAnswer) :
    ∀ e ∈ received a ++ commanded commandId cmd bigIntLength b, DemoEvent.OffersAll (.tee e) := by
  intro e he
  rcases List.mem_append.1 he with he | he
  · exact offersAll_of_received he
  · simp only [commanded, List.mem_cons, List.not_mem_nil, or_false] at he
    rcases he with rfl | rfl
    · trivial
    · rfl

/-- The size is set back before an APDU is sent. -/
theorem offersAll_apdu (halCmdLen : Nat) (input : List UInt8) (a : TaAnswer) :
    ∀ e ∈ apduEvents halCmdLen input a, DemoEvent.OffersAll (.tee e) := by
  intro e he
  rcases mem_apduEvents.1 he with rfl | rfl | ⟨-, hreceived⟩
  · trivial
  · rfl
  · exact offersAll_of_received hreceived

/-- Of the commands of `invoke_transmit`, only the first is offered what the command before it has left. -/
theorem crs_offersAll_iff (op : Operation) (a : CrsAnswers) :
    (∀ e ∈ (invokeTransmit op a).2.events.map DemoEvent.tee, e.OffersAll) ↔ op.outSize = bigIntLength := by
  have hopening : (∀ e ∈ opening op a, DemoEvent.OffersAll (.tee e)) ↔ op.outSize = bigIntLength := by
    simp [opening, commanded, DemoEvent.OffersAll]
  have hasking : ∀ e ∈ asking a, DemoEvent.OffersAll (.tee e) := offersAll_transmitted _ _ _ _
  have htoggling : ∀ e ∈ toggling a, DemoEvent.OffersAll (.tee e) := offersAll_transmitted _ _ _ _
  have hagain : ∀ e ∈ askingAgain a, DemoEvent.OffersAll (.tee e) := offersAll_transmitted _ _ _ _
  have hclosing : ∀ e ∈ closing a, DemoEvent.OffersAll (.tee e) := by
    simp [closing, received, DemoEvent.OffersAll]
  have hstopped : ∀ b, ∀ e ∈ stopped b, DemoEvent.OffersAll (.tee e) :=
    fun b e he => offersAll_of_received (mem_received_of_mem_stopped he)
  have hexit := invokeTransmit_exit op a
  generalize (invokeTransmit op a).1 = ret at hexit
  generalize (invokeTransmit op a).2.events = events at hexit ⊢
  rw [List.forall_mem_map]
  cases hexit with
  | notOpened => rw [List.forall_mem_append, hopening, and_iff_left (hstopped _)]
  | notAsked =>
    rw [List.forall_mem_append, List.forall_mem_append, hopening, and_iff_left hasking, and_iff_left (hstopped _)]
  | notToggled =>
    rw [List.forall_mem_append, List.forall_mem_append, List.forall_mem_append, hopening, and_iff_left hasking,
      and_iff_left htoggling, and_iff_left (hstopped _)]
  | notAskedAgain =>
    rw [List.forall_mem_append, List.forall_mem_append, List.forall_mem_append, List.forall_mem_append, hopening,
      and_iff_left hasking, and_iff_left htoggling, and_iff_left hagain, and_iff_left (hstopped _)]
  | closed =>
    rw [List.forall_mem_append, List.forall_mem_append, List.forall_mem_append, List.forall_mem_append, hopening,
      and_iff_left hasking, and_iff_left htoggling, and_iff_left hagain, and_iff_left hclosing]

/-- An option offers the whole output memory with every command, unless it inherits another size. -/
theorem option_offersAll_iff (s : Option DemoState) (o : DemoOption) :
    (∀ e ∈ demo.out s o, e.OffersAll) ↔ ∀ d, s = some d → o.Inherits → d.operation.outSize = bigIntLength := by
  cases s with
  | none => exact iff_of_true (by simp [demo]) (by simp)
  | some s =>
    simp only [demo, Option.map_some, Option.getD_some, Option.some.injEq, forall_eq']
    cases o with
    | c a => exact (crs_offersAll_iff s.operation a).trans true_imp_iff.symm
    | t a =>
      have hevents : (s.serve (.t a)).2 = [.tee (.invokeCommand esespiTest s.operation.input s.operation.outSize a.ret)] := rfl
      rw [hevents, List.forall_mem_singleton]
      exact true_imp_iff.symm
    | i optarg a =>
      refine iff_of_true ?_ False.elim
      exact forall_mem_serve_i s optarg a (fun _ => offersAll_of_onArg) fun halCmdLen input => offersAll_apdu halCmdLen input a
    | unknown => exact iff_of_true (by simp [DemoState.serve]) False.elim

/-- What the commands of an option leave is in `params[1].memref.size`. -/
theorem outSize_serve {s s' : DemoState} {o : DemoOption} (h : (s.serve o).1 = some s') :
    s'.operation.outSize = sizeAfter s.operation.outSize o := by
  cases o with
  | c a =>
    obtain ⟨ret, hret, rfl⟩ := Option.map_eq_some_iff.1 h
    -- in the branches in which the process dies there is no value
    have hlast : ∀ ret, (invokeTransmit s.operation a).1 = some ret →
        (invokeTransmit s.operation a).2.operation.outSize = a.last.outSize := by
      unfold invokeTransmit CrsAnswers.last
      split_ifs
      all_goals rintro ret ⟨⟩
      all_goals rfl
    exact hlast ret hret
  | t a =>
    cases Option.some.inj h
    rfl
  | i optarg a =>
    have hsent (halCmd : Mem) (halCmdLen : Nat) :
        (invokeHalTransmit s.operation halCmd halCmdLen a).2.operation.outSize = a.outSize := by
      unfold invokeHalTransmit
      split_ifs
      all_goals rfl
    simp only [DemoState.serve] at h
    split at h
    · cases h
    · obtain ⟨ret, -, rfl⟩ := Option.map_eq_some_iff.1 h
      exact hsent _ _
  | unknown =>
    cases Option.some.inj h
    rfl

/-! ## All options -/

/-- In every state that is reached, `params[1].memref.size` is what the commands have left. -/
theorem outSize_run {s : Option DemoState} (h : ∀ d, s = some d → d.operation.outSize = bigIntLength) (options : List DemoOption) :
    ∀ d, demo.run s options = some d → d.operation.outSize = sizeLeft options := by
  let sizes : Machine UInt32 DemoOption Unit := ⟨sizeAfter, fun _ _ => ()⟩
  have hstep (s : Option DemoState) (size : UInt32) (o : DemoOption) (hs : ∀ d, s = some d → d.operation.outSize = size)
      (_ : True) : ∀ d, demo.next s o = some d → d.operation.outSize = sizeAfter size o := by
    intro d hd
    cases s with
    | none => cases hd
    | some d₀ =>
      rw [← hs d₀ rfl]
      exact outSize_serve hd
  exact Machine.run_simulates (N := sizes) hstep h (sizes.along_of_forall_mem (fun _ _ _ => trivial) bigIntLength)

/-- The session starts with all of the output memory. -/
theorem outSize_demoStart (t : TeeAnswers) (halCmd : Mem) :
    ∀ d, (demoStart t halCmd).1 = some d → d.operation.outSize = bigIntLength := by
  intro d hd
  unfold demoStart at hd
  dsimp only at hd
  split_ifs at hd
  cases hd
  rfl

/-- Before the options no command is given. -/
theorem demoStart_offersAll (t : TeeAnswers) (halCmd : Mem) :
    ∀ e ∈ (demoStart t halCmd).2.map DemoEvent.tee, e.OffersAll := by
  have h100 : (0 : UInt32) ≠ initContextFailed := by decide
  have h101 : (0 : UInt32) ≠ openSessionFailed := by decide
  have hne : openSessionFailed ≠ initContextFailed := by decide
  unfold demoStart teeInit
  by_cases hi : t.initializeContext = teecSuccess
  · by_cases ho : t.openSession = teecSuccess
    · simp only [hi, ho, ne_eq, not_true, if_false, h100, h101]
      split_ifs
      all_goals simp [DemoEvent.OffersAll]
    · simp [hi, ho, hne, cleanup2, DemoEvent.OffersAll]
  · simp [hi, DemoEvent.OffersAll]

/-- Neither does the cleanup. -/
theorem cleaned_offersAll (alive : Bool) :
    ∀ e ∈ (if alive then demoCleanup4 else []).map DemoEvent.tee, e.OffersAll := by
  cases alive with
  | false => simp
  | true => simp [demoCleanup4, cleanup3, cleanup2, DemoEvent.OffersAll]

/-- What is done for the options offers the whole output memory, unless one of them inherits another size. -/
theorem processed_offersAll_iff (t : TeeAnswers) (halCmd : Mem) (options : List DemoOption) :
    (∀ e ∈ (demo.outs (demoStart t halCmd).1 options).flatten, e.OffersAll) ↔
      ∀ pre o, pre ++ [o] <+: options → (demo.run (demoStart t halCmd).1 pre).isSome → o.Inherits →
        sizeLeft pre = bigIntLength := by
  rw [demo.forall_mem_flatten_outs, demo.along_congr option_offersAll_iff, demo.along_iff_forall_initial]
  have hleft := outSize_run (outSize_demoStart t halCmd)
  constructor
  · intro h pre o hpre halive hinherits
    obtain ⟨d, hd⟩ := Option.isSome_iff_exists.1 halive
    rw [← hleft pre d hd]
    exact h pre o hpre d hd hinherits
  · intro h pre o hpre d hd hinherits
    rw [hleft pre d hd]
    exact h pre o hpre (Option.isSome_iff_exists.2 ⟨d, hd⟩) hinherits

/-- For every sequence of options, and of results and sizes that the trusted application leaves: every command of `teeclientdemo` is
given with the size of the whole output memory, exactly when every `-c` and every `-t` that is reached comes first or after a command
that has left this size. -/
theorem commands_offer_all_iff (t : TeeAnswers) (halCmd : Mem) (options : List DemoOption) :
    (∀ e ∈ teeclientdemo t halCmd options, e.OffersAll) ↔
      ∀ pre o, pre ++ [o] <+: options → (demo.run (demoStart t halCmd).1 pre).isSome → o.Inherits →
        sizeLeft pre = bigIntLength := by
  rw [← processed_offersAll_iff]
  constructor
  · intro h e he
    exact h e (List.mem_append_left _ (List.mem_append_right _ he))
  · intro h e he
    rcases List.mem_append.1 he with he | he
    · rcases List.mem_append.1 he with he | he
      · exact demoStart_offersAll t halCmd e he
      · exact h e he
    · exact cleaned_offersAll (demo.run (demoStart t halCmd).1 options).isSome e he

/-- The APDU SELECT, and then the self test; the response to the APDU has two bytes. -/
def testAfterApdu : List DemoOption :=
  [.i ("00a4".toList.map Char.toUInt8 ++ [0]) ⟨0, 2, fun _ => 0x90, true⟩, .t ⟨0, 0, fun _ => 0, true⟩]

/-- The self test is offered the two bytes that the response before it had. -/
theorem self_test_offered_two_bytes :
    ¬∀ e ∈ teeclientdemo ⟨0, 0, 0, 0, 0, 0, fun _ => 0⟩ (fun _ => 0) testAfterApdu, e.OffersAll := by
  intro h
  have hprocessed : ∀ e ∈ (demo.outs (demoStart ⟨0, 0, 0, 0, 0, 0, fun _ => 0⟩ fun _ => 0).1 testAfterApdu).flatten, e.OffersAll :=
    fun e he => h e (List.mem_append_left _ (List.mem_append_right _ he))
  have hleft := (processed_offersAll_iff _ _ _).1 hprocessed testAfterApdu.dropLast _ (List.prefix_refl _) rfl trivial
  exact absurd hleft (by decide)

end EseManager
