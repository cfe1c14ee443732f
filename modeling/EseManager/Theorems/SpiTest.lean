import EseManager.Lemmas.DemoClient
import EseManager.SpiTest
import EseManager.Theorems.TeeResources

/-!
# What the test program leaves behind

No way through `teeclientdemo` leaves anything behind but the death of the process. Around the client `main` looks at no answer of the
driver: it gives the eSE back whether it has got it or not, so that what it has taken is given back only when the driver agrees.
-/

namespace EseManager

open Resources

/-- What the program takes: the device node, the eSE (asked for with level 3, and given back with level 0), and what `teeclientdemo`
acquires of the TEE. -/
inductive SpiTestResource where
  | node
  | spi
  | tee (r : TeeResource)
  deriving DecidableEq, Repr

/-- The eSE is asked for and given back through the node, and what belongs to the TEE is released before it is given back. -/
def SpiTestResource.Before : SpiTestResource → SpiTestResource → Prop
  | .spi, .node => True
  | .tee _, .node => True
  | .tee _, .spi => True
  | .tee r, .tee q => r.Before q
  | _, _ => False

/-- What an event takes or gives back. The driver gives the eSE, or takes it back, when the request succeeds. -/
def SpiTestEvent.resourceOp : SpiTestEvent → Option (Op SpiTestResource)
  | .openNode ret => if ret < 0 then none else some (.acquire .node)
  | .ioctl _ (.setSpiPwr level) ret =>
    if ret < 0 then none
    else if level = 3 then some (.acquire .spi)
    else if level = 0 then some (.release .spi)
    else none
  | .ioctl _ _ _ => none
  | .sleep _ => none
  | .client (.tee e) => e.resourceOp.map (Op.map .tee)
  | .client _ => none
  | .closeNode _ => some (.release .node)

/-- What events take and give back, in order. -/
def spiTestOps (events : List SpiTestEvent) : List (Op SpiTestResource) := events.filterMap SpiTestEvent.resourceOp

/-- The argument of `-i` has a NUL at an even place, and of the responses that are taken there is none that the process does not
outlive. -/
def DemoOption.Ends : DemoOption → Prop
  | .c a => ¬a.Kills
  | .i optarg a => (∃ k, optarg[2 * k]? = some 0) ∧ ¬a.Kills
  | _ => True

/-- Either the node, the context or the session cannot be opened, or both shared memories can be allocated and every option ends. -/
def ComesToItsEnd (n : Pn553Answers) (t : TeeAnswers) (options : List DemoOption) : Prop :=
  0 ≤ n.openRet → t.initializeContext = teecSuccess → t.openSession = teecSuccess →
    t.allocateInput = teecSuccess ∧ t.allocateOutput = teecSuccess ∧ ∀ o ∈ options, o.Ends

/-! ## When the client returns -/

theorem byteLen_isSome_iff (i j : ℕ) (byte : Mem) (hexstring : List UInt8) :
    (hexLoop i j byte hexstring).byteLen.isSome ↔ ∃ k, hexstring[2 * k]? = some 0 := by
  induction i, j, byte, hexstring using hexLoop.induct with
  | case1 => simp [hexLoop]
  | case2 i j byte => exact iff_of_true rfl ⟨0, rfl⟩
  | case3 i j byte c hc =>
    refine iff_of_false (by simp [hexLoop, hc]) ?_
    rintro ⟨k, hk⟩
    obtain ⟨hlt, hget⟩ := List.getElem?_eq_some_iff.1 hk
    rw [List.length_singleton] at hlt
    have hzero : 2 * k = 0 := by omega
    simp only [hzero, List.getElem_cons_zero] at hget
    exact hc hget
  | case4 i j byte d hexstring => exact iff_of_true rfl ⟨0, rfl⟩
  | case5 i j byte c d hexstring hc ih =>
    have hstep : (hexLoop i j byte (c :: d :: hexstring)).byteLen =
        (hexLoop (i + 2) (j + 1) (byte.write j [hexPair c d]) hexstring).byteLen := by
      rw [hexLoop, if_neg hc]
    rw [hstep, ih]
    constructor
    · rintro ⟨k, hk⟩
      exact ⟨k + 1, hk⟩
    · rintro ⟨k, hk⟩
      cases k with
      | zero => exact absurd (Option.some.inj hk) hc
      | succ k => exact ⟨k, hk⟩

/-- An option is survived exactly when it ends. -/
theorem serve_isSome_iff (s : DemoState) (o : DemoOption) : (s.serve o).1.isSome ↔ o.Ends := by
  cases o with
  | c a => simp only [DemoState.serve, Option.isSome_map, invokeTransmit_isSome, DemoOption.Ends]
  | t a => exact iff_of_true rfl trivial
  | unknown => exact iff_of_true rfl trivial
  | i optarg a =>
    have hends : (hexcharToByte optarg s.halCmd).byteLen.isSome ↔ ∃ k, optarg[2 * k]? = some 0 :=
      byteLen_isSome_iff 0 0 s.halCmd optarg
    have hexit := serve_i_exit s optarg a
    generalize s.serve (.i optarg a) = r at hexit ⊢
    rw [DemoOption.Ends, ← hends]
    cases hexit with
    | died h => exact iff_of_false Bool.false_ne_true fun hall => by simp [h] at hall
    | sent halCmdLen h next hnext => rw [hnext, h, and_iff_right Option.isSome_some]

theorem demo_run_none (options : List DemoOption) : demo.run none options = none := by
  induction options with
  | nil => rfl
  | cons o options ih => exact ih

/-- The client gets through its options exactly when all of them end. -/
theorem demo_run_isSome_iff (s : DemoState) (options : List DemoOption) :
    (demo.run (some s) options).isSome ↔ ∀ o ∈ options, o.Ends := by
  induction options generalizing s with
  | nil => simp
  | cons o options ih =>
    have hserve := serve_isSome_iff s o
    have hnext : demo.next (some s) o = (s.serve o).1 := rfl
    rw [Machine.run_cons, hnext, List.forall_mem_cons, ← hserve]
    cases h : (s.serve o).1 with
    | none => simp [demo_run_none]
    | some s' => simp [ih]

/-- The client returns exactly when it does not get to its options, or gets through them. -/
theorem teeclientdemoReturns_iff (t : TeeAnswers) (halCmd : Mem) (options : List DemoOption) :
    teeclientdemoReturns t halCmd options = true ↔ (t.initializeContext = teecSuccess → t.openSession = teecSuccess →
      t.allocateInput = teecSuccess ∧ t.allocateOutput = teecSuccess ∧ ∀ o ∈ options, o.Ends) := by
  have hcontext : (0 : UInt32) ≠ initContextFailed := by decide
  have hsession : (0 : UInt32) ≠ openSessionFailed := by decide
  have hne : openSessionFailed ≠ initContextFailed := by decide
  unfold teeclientdemoReturns
  by_cases hi : t.initializeContext = teecSuccess
  · by_cases ho : t.openSession = teecSuccess
    · by_cases ha : t.allocateInput = teecSuccess
      · by_cases hao : t.allocateOutput = teecSuccess
        · have hstart : (demoStart t halCmd).1 = some ⟨initialOperation, halCmd⟩ := by
            simp [demoStart, teeInit, hi, ho, ha, hao, hcontext, hsession]
          simp [teeInit, hi, ho, ha, hao, hcontext, hsession, hstart, demo_run_isSome_iff]
        · have hstart : (demoStart t halCmd).1 = none := by
            simp [demoStart, teeInit, hi, ho, ha, hao, hcontext, hsession]
          simp [teeInit, hi, ho, hao, hcontext, hsession, hstart, demo_run_none]
      · have hstart : (demoStart t halCmd).1 = none := by
          simp [demoStart, teeInit, hi, ho, ha, hcontext, hsession]
        simp [teeInit, hi, ho, ha, hcontext, hsession, hstart, demo_run_none]
    · simp [teeInit, hi, ho, hne]
  · simp [teeInit, hi]

/-! ## What is taken and given back -/

/-- What the client takes and gives back. -/
def clientOps (events : List DemoEvent) : List (Op SpiTestResource) := spiTestOps (events.map .client)

theorem clientOps_append (es fs : List DemoEvent) : clientOps (es ++ fs) = clientOps es ++ clientOps fs := by
  simp [clientOps, spiTestOps]

/-- Only what belongs to the TEE. -/
theorem mem_clientOps {events : List DemoEvent} {op : Op SpiTestResource} (h : op ∈ clientOps events) :
    ∃ r, op = .acquire (.tee r) ∨ op = .release (.tee r) := by
  obtain ⟨e, he, hop⟩ := List.mem_filterMap.1 h
  obtain ⟨d, -, rfl⟩ := List.mem_map.1 he
  cases d with
  | readArg => cases hop
  | storeByte => cases hop
  | tee e =>
    obtain ⟨o, -, rfl⟩ := Option.map_eq_some_iff.1 hop
    cases o with
    | acquire r => exact ⟨r, .inl rfl⟩
    | release r => exact ⟨r, .inr rfl⟩

/-- No option takes anything. -/
theorem serve_takes_nothing (s : DemoState) (o : DemoOption) : ∀ e ∈ (s.serve o).2, (SpiTestEvent.client e).resourceOp = none := by
  have hnone : ∀ events : List TeeEvent, resourceOps events = [] → ∀ e ∈ events, (SpiTestEvent.client (.tee e)).resourceOp = none := by
    intro events hempty e he
    have hop := List.filterMap_eq_nil_iff.1 hempty e he
    rw [SpiTestEvent.resourceOp, hop]
    rfl
  cases o with
  | c a =>
    intro e he
    obtain ⟨event, hevent, rfl⟩ := List.mem_map.1 he
    refine hnone _ ?_ event hevent
    have hstopped : ∀ b, resourceOps (stopped b) = [] := by
      intro b
      unfold stopped
      split_ifs
      · rfl
      · rfl
    have happend : ∀ es fs, resourceOps (es ++ fs) = resourceOps es ++ resourceOps fs := fun es fs => List.filterMap_append
    have hexit := invokeTransmit_exit s.operation a
    generalize (invokeTransmit s.operation a).1 = ret at hexit
    generalize (invokeTransmit s.operation a).2.events = events at hexit
    cases hexit with
    | notOpened => rw [happend, hstopped]; rfl
    | notAsked => rw [happend, hstopped]; rfl
    | notToggled => rw [happend, hstopped]; rfl
    | notAskedAgain => rw [happend, hstopped]; rfl
    | closed => rfl
  | t a =>
    intro e he
    obtain ⟨event, hevent, rfl⟩ := List.mem_map.1 he
    exact hnone _ rfl event hevent
  | unknown => simp [DemoState.serve]
  | i optarg a =>
    refine forall_mem_serve_i s optarg a (fun e he => ?_) fun halCmdLen input e he => hnone (apduEvents halCmdLen input a) ?_ e he
    · cases e with
      | readArg => rfl
      | storeByte => rfl
      | tee => exact he.elim
    · unfold apduEvents
      split_ifs
      all_goals rfl

/-- So the options take nothing. -/
theorem clientOps_processed (d : Option DemoState) (options : List DemoOption) : clientOps (demo.outs d options).flatten = [] := by
  have hall : ∀ e ∈ (demo.outs d options).flatten, (SpiTestEvent.client e).resourceOp = none := by
    refine (demo.forall_mem_flatten_outs _ _).2 (Machine.along_of_forall_mem _ (fun o _ d => ?_) _)
    cases d with
    | none => simp [demo]
    | some s => exact serve_takes_nothing s o
  rw [clientOps, spiTestOps, List.filterMap_map]
  exact List.filterMap_eq_nil_iff.2 hall

/-- The client, if it gets no context or no session, or both shared memories and through its options. -/
inductive DemoExit : List (Op SpiTestResource) → Prop where
  | noContext : DemoExit []
  | noSession : DemoExit [.acquire (.tee .context), .release (.tee .context)]
  | served : DemoExit [.acquire (.tee .context), .acquire (.tee .session), .acquire (.tee (.shm .input)), .acquire (.tee (.shm .output)),
      .release (.tee (.shm .input)), .release (.tee (.shm .output)), .release (.tee .session), .release (.tee .context)]

theorem teeclientdemo_exit {t : TeeAnswers} {halCmd : Mem} {options : List DemoOption}
    (h : teeclientdemoReturns t halCmd options = true) : DemoExit (clientOps (teeclientdemo t halCmd options)) := by
  have hcontext : (0 : UInt32) ≠ initContextFailed := by decide
  have hsession : (0 : UInt32) ≠ openSessionFailed := by decide
  have hne : openSessionFailed ≠ initContextFailed := by decide
  have hreturns := (teeclientdemoReturns_iff t halCmd options).1 h
  have hops : clientOps (teeclientdemo t halCmd options) =
      clientOps ((demoStart t halCmd).2.map .tee) ++
        clientOps ((if (demo.run (demoStart t halCmd).1 options).isSome then demoCleanup4 else []).map .tee) := by
    rw [teeclientdemo, clientOps_append, clientOps_append, clientOps_processed, List.append_nil]
  rw [hops]
  by_cases hi : t.initializeContext = teecSuccess
  · by_cases ho : t.openSession = teecSuccess
    · obtain ⟨ha, hao, hends⟩ := hreturns hi ho
      have hstart : demoStart t halCmd = (some ⟨initialOperation, halCmd⟩,
          [.initializeContext 0, .openSession 0, .allocateSharedMemory .input bigIntLength 0, .storeShm .input 0 256,
            .storeShm .input 0 1, .allocateSharedMemory .output bigIntLength 0, .storeShm .output 0 256]) := by
        simp [demoStart, teeInit, hi, ho, ha, hao, hcontext, hsession, teecSuccess]
      have hsome := (demo_run_isSome_iff ⟨initialOperation, halCmd⟩ options).2 hends
      rw [hstart, if_pos hsome]
      exact .served
    · have hstart : demoStart t halCmd = (none, [.initializeContext teecSuccess, .openSession t.openSession, .finalizeContext]) := by
        simp [demoStart, teeInit, hi, ho, hne, cleanup2]
      have hops : clientOps ((demoStart t halCmd).2.map .tee) = [.acquire (.tee .context), .release (.tee .context)] := by
        simp [hstart, clientOps, spiTestOps, SpiTestEvent.resourceOp, TeeEvent.resourceOp, ho, Op.map]
      rw [hops, hstart, demo_run_none]
      exact .noSession
  · have hstart : demoStart t halCmd = (none, [.initializeContext t.initializeContext]) := by
      simp [demoStart, teeInit, hi]
    have hops : clientOps ((demoStart t halCmd).2.map .tee) = [] := by
      simp [hstart, clientOps, spiTestOps, SpiTestEvent.resourceOp, TeeEvent.resourceOp, hi]
    rw [hops, hstart, demo_run_none]
    exact .noContext

/-- All of it is balanced inside the node, whether `main` has got the eSE or not. -/
theorem DemoExit.balanced {ops : List (Op SpiTestResource)} (h : DemoExit ops) {taken : Finset SpiTestResource}
    (htaken : ∀ q ∈ taken, q = .node ∨ q = .spi) : Balanced SpiTestResource.Before taken ops := by
  have hnot : ∀ r, SpiTestResource.tee r ∉ taken := fun r hr => by simpa using htaken _ hr
  have hout : ∀ r, ∀ q ∈ taken, ¬SpiTestResource.Before q (.tee r) := by
    intro r q hq
    rcases htaken q hq with rfl | rfl
    · exact id
    · exact id
  have hc : ∀ q ∈ insert (.tee .context) taken, ¬SpiTestResource.Before q (.tee .context) :=
    Finset.forall_mem_insert .. |>.2 ⟨id, hout _⟩
  cases h with
  | noContext => exact balanced_nil
  | noSession => exact balanced_nil.bracket (hnot _) hc
  | served =>
    let opened : Finset SpiTestResource := insert (.tee .session) (insert (.tee .context) taken)
    have hs : ∀ q ∈ opened, ¬SpiTestResource.Before q (.tee .session) :=
      Finset.forall_mem_insert .. |>.2 ⟨id, Finset.forall_mem_insert .. |>.2 ⟨id, hout _⟩⟩
    have hshm : ∀ q ∈ insert (.tee (.shm .output)) (insert (.tee (.shm .input)) opened),
        ¬SpiTestResource.Before q (.tee (.shm .input)) ∧ ¬SpiTestResource.Before q (.tee (.shm .output)) := by
      intro q hq
      simp only [opened, Finset.mem_insert] at hq
      rcases hq with rfl | rfl | rfl | rfl | hq
      · exact ⟨id, id⟩
      · exact ⟨id, id⟩
      · exact ⟨id, id⟩
      · exact ⟨id, id⟩
      · exact ⟨hout _ q hq, hout _ q hq⟩
    have hmemories := balanced_nil.crossed (by simp [opened, hnot]) (by simp [opened, hnot]) hshm
    have hses := hmemories.bracket (by simp [hnot]) hs
    exact hses.bracket (hnot _) hc

/-- The eSE is taken, or given back, when the driver says so. -/
def spiOps (op : Op SpiTestResource) (ret : Int) : List (Op SpiTestResource) := if ret < 0 then [] else [op]

/-- With the node open, the program takes the node and asks for the eSE before the client, and gives both back when the client
returns. -/
theorem spiTestOps_of_opened {n : Pn553Answers} (hn : 0 ≤ n.openRet) (t : TeeAnswers) (halCmd : Mem) (options : List DemoOption) :
    spiTestOps (spiTestMain n t halCmd options).2 =
      .acquire .node :: (spiOps (.acquire .spi) n.spiPrio ++ clientOps (teeclientdemo t halCmd options) ++
        if teeclientdemoReturns t halCmd options = true then spiOps (.release .spi) n.spiOff ++ [.release .node] else []) := by
  have hopen : ¬n.openRet < 0 := Int.not_lt.2 hn
  have hprio : spiTestOps [.ioctl n.openRet (.setSpiPwr 3) n.spiPrio] = spiOps (.acquire .spi) n.spiPrio := by
    unfold spiOps
    split_ifs with h
    · simp [spiTestOps, SpiTestEvent.resourceOp, h]
    · simp [spiTestOps, SpiTestEvent.resourceOp, h]
  have hoff : spiTestOps [.ioctl n.openRet (.setSpiPwr 0) n.spiOff, .closeNode n.openRet] =
      spiOps (.release .spi) n.spiOff ++ [.release .node] := by
    unfold spiOps
    split_ifs with h
    · simp [spiTestOps, SpiTestEvent.resourceOp, h]
    · simp [spiTestOps, SpiTestEvent.resourceOp, h]
  have hbefore : spiTestOps [.openNode n.openRet, .ioctl n.openRet (.setPowerScheme 2) n.setPowerScheme,
      .ioctl n.openRet .getPwrStatus n.getPwrStatus] = [.acquire .node] := by
    simp [spiTestOps, SpiTestEvent.resourceOp, hopen]
  have hprioEnd : spiTestOps [.ioctl n.openRet (.setSpiPwr 4) n.spiPrioEnd, .sleep 1] = [] := by
    simp [spiTestOps, SpiTestEvent.resourceOp]
  have happend : ∀ es fs, spiTestOps (es ++ fs) = spiTestOps es ++ spiTestOps fs := fun es fs => List.filterMap_append
  let before : List SpiTestEvent := [.openNode n.openRet, .ioctl n.openRet (.setPowerScheme 2) n.setPowerScheme,
      .ioctl n.openRet .getPwrStatus n.getPwrStatus] ++ [.ioctl n.openRet (.setSpiPwr 3) n.spiPrio] ++
    [.ioctl n.openRet (.setSpiPwr 4) n.spiPrioEnd, .sleep 1]
  have hstart : spiTestOps (before ++ (teeclientdemo t halCmd options).map .client) =
      .acquire .node :: (spiOps (.acquire .spi) n.spiPrio ++ clientOps (teeclientdemo t halCmd options)) := by
    rw [happend, happend, happend, hbefore, hprio, hprioEnd, List.append_nil]
    rfl
  by_cases h : teeclientdemoReturns t halCmd options = true
  · have hmain : (spiTestMain n t halCmd options).2 = (before ++ (teeclientdemo t halCmd options).map .client) ++
        [.ioctl n.openRet (.setSpiPwr 0) n.spiOff, .closeNode n.openRet] := by
      simp [spiTestMain, hopen, h, before]
    rw [hmain, happend, hstart, hoff, if_pos h]
    rfl
  · have hmain : (spiTestMain n t halCmd options).2 = before ++ (teeclientdemo t halCmd options).map .client := by
      simp [spiTestMain, hopen, h, before]
    rw [hmain, hstart, if_neg h, List.append_nil]

/-- The driver agrees that what `main` gives back is what it has taken. -/
def Pn553Answers.Agrees (n : Pn553Answers) : Prop := 0 ≤ n.openRet → (0 ≤ n.spiPrio ↔ 0 ≤ n.spiOff)

/-- What `main` takes itself, the client neither takes nor gives back. -/
theorem count_clientOps (events : List DemoEvent) {r : SpiTestResource} (hr : ∀ q, r ≠ .tee q) :
    (clientOps events).count (.acquire r) = 0 ∧ (clientOps events).count (.release r) = 0 := by
  have hnot : ∀ op : Op SpiTestResource, (op = .acquire r ∨ op = .release r) → op ∉ clientOps events := by
    rintro op hop hmem
    obtain ⟨q, hq⟩ := mem_clientOps hmem
    rcases hop with rfl | rfl
    · simp only [Op.acquire.injEq, reduceCtorEq, or_false] at hq
      exact hr q hq
    · simp only [Op.release.injEq, reduceCtorEq, false_or] at hq
      exact hr q hq
  exact ⟨List.count_eq_zero.2 (hnot _ (.inl rfl)), List.count_eq_zero.2 (hnot _ (.inr rfl))⟩

/-- When the client returns, all depends on the driver. -/
theorem balanced_of_returns {n : Pn553Answers} (hn : 0 ≤ n.openRet) {t : TeeAnswers} {halCmd : Mem} {options : List DemoOption}
    (h : teeclientdemoReturns t halCmd options = true) :
    Balanced SpiTestResource.Before ∅ (spiTestOps (spiTestMain n t halCmd options).2) ↔ n.Agrees := by
  have hclient := teeclientdemo_exit h
  obtain ⟨hacquire, hrelease⟩ := count_clientOps (teeclientdemo t halCmd options) (r := .spi) (by simp)
  rw [spiTestOps_of_opened hn, if_pos h]
  unfold spiOps Pn553Answers.Agrees
  by_cases hprio : n.spiPrio < 0
  · by_cases hoff : n.spiOff < 0
    · refine iff_of_true ?_ fun _ => iff_of_false (Int.not_le.2 hprio) (Int.not_le.2 hoff)
      have htaken : ∀ q ∈ insert SpiTestResource.node (∅ : Finset SpiTestResource), q = .node ∨ q = .spi := by simp
      have hnode := (hclient.balanced htaken).bracket (by simp) (by simp [SpiTestResource.Before])
      simpa [hprio, hoff] using hnode
    · refine iff_of_false (fun hb => ?_) fun hall => hprio.not_ge ((hall hn).2 (Int.not_lt.1 hoff))
      -- the eSE is given back and was not taken
      have hcount := hb.count_release .spi
      simp [hprio, hoff, hacquire, hrelease] at hcount
  · by_cases hoff : n.spiOff < 0
    · refine iff_of_false (fun hb => ?_) fun hall => hoff.not_ge ((hall hn).1 (Int.not_lt.1 hprio))
      have hcount := hb.count_release .spi
      simp [hprio, hoff, hacquire, hrelease] at hcount
    · refine iff_of_true ?_ fun _ => iff_of_true (Int.not_lt.1 hprio) (Int.not_lt.1 hoff)
      have htaken : ∀ q ∈ insert SpiTestResource.spi (insert .node (∅ : Finset SpiTestResource)), q = .node ∨ q = .spi := by simp
      have hspi := (hclient.balanced htaken).bracket (by simp) (by simp [SpiTestResource.Before])
      have hnode := hspi.bracket (by simp) (by simp [SpiTestResource.Before])
      simpa [hprio, hoff] using hnode

/-- When it does not, the node is not closed. -/
theorem not_balanced_of_died {n : Pn553Answers} (hn : 0 ≤ n.openRet) {t : TeeAnswers} {halCmd : Mem} {options : List DemoOption}
    (h : ¬teeclientdemoReturns t halCmd options = true) :
    ¬Balanced SpiTestResource.Before ∅ (spiTestOps (spiTestMain n t halCmd options).2) := by
  intro hb
  obtain ⟨hacquire, hrelease⟩ := count_clientOps (teeclientdemo t halCmd options) (r := .node) (by simp)
  have hcount := hb.count_release .node
  rw [spiTestOps_of_opened hn, if_neg h] at hcount
  unfold spiOps at hcount
  split_ifs at hcount
  · simp [hacquire, hrelease] at hcount
  · simp [hacquire, hrelease] at hcount

/-- For every answer of the driver and of the TEE, every content of the stack and all options: the test program ends by itself exactly
when the node, the context or the session cannot be opened, or both shared memories can be allocated, every argument of `-i` has a NUL at
an even place, and no response ends the process; and it gives back all that it has taken, once and in the right order (the shared
memories, the session, the context, the eSE and the node), and nothing else, exactly when it does so and the driver either grants both the
request for the eSE and that which gives it back, or neither. -/
theorem spiTest_gives_back_iff (n : Pn553Answers) (t : TeeAnswers) (halCmd : Mem) (options : List DemoOption) :
    ((spiTestMain n t halCmd options).1 = some 0 ↔ ComesToItsEnd n t options) ∧
      (Balanced SpiTestResource.Before ∅ (spiTestOps (spiTestMain n t halCmd options).2) ↔
        ComesToItsEnd n t options ∧ n.Agrees) := by
  have hreturns := teeclientdemoReturns_iff t halCmd options
  by_cases hn : n.openRet < 0
  · have hend : ComesToItsEnd n t options := fun h => absurd hn (Int.not_lt.2 h)
    have hmain : spiTestMain n t halCmd options = (some 0, [.openNode n.openRet]) := by simp [spiTestMain, hn]
    have hops : spiTestOps [.openNode n.openRet] = [] := by simp [spiTestOps, SpiTestEvent.resourceOp, hn]
    rw [hmain]
    refine ⟨iff_of_true rfl hend, iff_of_true ?_ ⟨hend, fun h => absurd hn (Int.not_lt.2 h)⟩⟩
    rw [hops]
    exact balanced_nil
  have hopen : 0 ≤ n.openRet := Int.not_lt.1 hn
  have hend : ComesToItsEnd n t options ↔ teeclientdemoReturns t halCmd options = true := by
    rw [hreturns]
    exact ⟨fun h => h hopen, fun h _ => h⟩
  rw [hend]
  by_cases h : teeclientdemoReturns t halCmd options = true
  · exact ⟨iff_of_true (by simp [spiTestMain, hn, h]) h, (balanced_of_returns hopen h).trans (and_iff_right h).symm⟩
  · exact ⟨iff_of_false (by simp [spiTestMain, hn, h]) h, iff_of_false (not_balanced_of_died hopen h) fun hall => h hall.1⟩

end EseManager
