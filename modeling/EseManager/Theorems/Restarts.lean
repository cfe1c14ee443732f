import EseManager.Theorems.OpenNode
import EseManager.Site
import EseManager.Theorems.RefCount

/-!
# The power of the eSE across restarts of the daemon

A daemon that dies while somebody is registered leaves the eSE on, and the new one knows nothing of it: the old clients' `powerOff`
finds them unregistered. `LeftOn` says that this has happened and that nothing has switched the eSE off since. Apart from that the
eSE is on exactly while somebody is registered, however often the daemon is restarted (`power_across_restarts`).
-/

namespace EseManager

/-- A restart of the daemon found the eSE on, and no handler has switched it off since. -/
def LeftOn (st : Site) (is : List Incident) : Prop :=
  ∃ pre post, is = pre ++ .restart :: post ∧ SpiPower (site.run st pre).word ∧
    ∀ c ∈ (site.outs (site.run st (pre ++ [.restart])) post).flatten, c.isPowerOff = false

/-! ## Calls and the status word -/

/-- None of the calls is a power-off. -/
def NoOff (calls : List Call) : Prop := ∀ c ∈ calls, c.isPowerOff = false

theorem Quiet.noOff {calls : List Call} (h : Quiet calls) : NoOff calls := by
  intro c hc
  rw [← Bool.not_eq_true]
  intro hoff
  have hp := Call.isPower_of_isPowerOff hoff
  rw [h c hc] at hp
  cases hp

theorem NoOff.append {cs ds : List Call} (h : NoOff cs) (h' : NoOff ds) : NoOff (cs ++ ds) := by
  intro c hc
  rcases List.mem_append.1 hc with hc | hc
  · exact h c hc
  · exact h' c hc

/-- A call that is no power-off leaves the eSE on. -/
theorem spiPower_wordAfter {word : BitVec 32} (h : SpiPower word) {c : Call} (hc : c.isPowerOff = false) :
    SpiPower (wordAfter word c) := by
  unfold wordAfter
  split
  · rename_i fd level ret
    split
    · exact h
    · split
      · rename_i hlevel
        subst hlevel
        cases hc
      · exact spiPower_set word
  · exact h

/-- Without a power-off the eSE stays on. -/
theorem spiPower_wordAfterAll {calls : List Call} (hc : NoOff calls) {word : BitVec 32} (h : SpiPower word) :
    SpiPower (wordAfterAll word calls) := by
  induction calls generalizing word with
  | nil => exact h
  | cons c cs ih =>
    have hhead := spiPower_wordAfter h (hc c List.mem_cons_self)
    exact ih (fun d hd => hc d (List.mem_cons_of_mem c hd)) hhead

/-- The calls of the daemon touch no bit but the SPI one. -/
theorem noConflict_wordAfterAll (calls : List Call) {word : BitVec 32} (h : NoConflict word) :
    NoConflict (wordAfterAll word calls) := by
  induction calls generalizing word with
  | nil => exact h
  | cons c cs ih =>
    have hword : NoConflict (wordAfter word c) := by
      unfold wordAfter
      split
      · split
        · exact h
        · split
          · exact h.clear
          · exact h.set
      · exact h
    exact ih hword

/-- The calls hold no power-off, or after them the eSE is off. -/
def OffLast (calls : List Call) : Prop := NoOff calls ∨ ∀ word, ¬SpiPower (wordAfterAll word calls)

/-- Calls in front that are no power-off make no difference. -/
theorem OffLast.append {cs ds : List Call} (h : OffLast ds) (hc : NoOff cs) : OffLast (cs ++ ds) := by
  rcases h with h | h
  · exact Or.inl (hc.append h)
  · refine Or.inr fun word => ?_
    rw [wordAfterAll_append]
    exact h _

/-- A power-off that succeeds, with calls after it that switch no power. -/
theorem offLast_cons (fd : Int) {ret : Int} (hr : 0 ≤ ret) {calls : List Call} (hc : Quiet calls) :
    OffLast (.ioctl fd (.setSpmPwr 0) ret :: calls) := by
  refine Or.inr fun word => ?_
  have hw : wordAfterAll word (.ioctl fd (.setSpmPwr 0) ret :: calls) = word &&& ~~~p61StateSpi := by
    rw [← List.singleton_append, wordAfterAll_append, wordAfterAll_of_quiet hc]
    exact wordAfter_off fd hr word
  rw [hw]
  exact not_spiPower_clear word

theorem statusCall_quiet (s : State) (a : Answers) : Quiet [statusCall s a] := by
  simp [Quiet, statusCall, Call.isPower]

theorem closeNode_quiet (fd ret : Int) : Quiet [.closeNode fd ret] := by
  simp [Quiet, Call.isPower]

/-- A `switchOff` that switches the eSE off leaves it off. -/
theorem switchOff_offLast {s : State} {a : Answers} {done : Int} {o : Outcome} (h : SwitchOffExit s a done o)
    (hr : 0 ≤ a.pwrOffRet) : OffLast o.calls := by
  cases h with
  | busy => exact Or.inl (statusCall_quiet s a).noOff
  | offFailed _ hneg => omega
  | off => exact (offLast_cons s.nqNode hr (closeNode_quiet s.nqNode a.closeRet)).append (statusCall_quiet s a).noOff

/-- So does a `powerOn`. -/
theorem powerOn_offLast (s : State) (uid : Int) (pid : Pid) (notifier : Option Binder) {a : Answers}
    (hr : 0 ≤ a.pwrOffRet) : OffLast (powerOn s uid pid notifier a).calls := by
  by_cases hadm : Admitted s uid a
  · have heq := powerOn_admitted hadm pid notifier
    have hq := admittedCalls_quiet s a
    have hexit := powerOnNode_exit (admittedState s a) pid notifier a
    rw [heq, Outcome.after_calls]
    refine OffLast.append ?_ hq.noOff
    generalize powerOnNode (admittedState s a) pid notifier a = o at hexit
    cases hexit with
    | statusFailed => exact Or.inl (statusCall_quiet _ a).noOff
    | switchFailed _ ret switched hs => exact Or.inl ((statusCall_quiet _ a).noOff.append hs.no_powerOff)
    | on _ switched hs o hreg =>
      rw [Outcome.after_calls]
      refine OffLast.append ?_ ((statusCall_quiet _ a).noOff.append hs.no_powerOff)
      cases hreg with
      | shared => exact Or.inl (by simp [NoOff])
      | undoFailed _ _ hneg => omega
      | undone => exact offLast_cons _ hr (closeNode_quiet _ _)
      | linkFailed => exact Or.inl (by simp [NoOff, Call.isPowerOff])
      | registered => exact Or.inl (by simp [NoOff, Call.isPowerOff])
  · obtain ⟨-, hq, -⟩ := powerOn_refused hadm pid notifier
    exact Or.inl hq.noOff

/-- Once a handler has issued a power-off that succeeds, it leaves the eSE off. -/
theorem handle_offLast (s : State) (r : Request) {a : Answers} (hr : 0 ≤ a.pwrOffRet) : OffLast (handle s r a).calls := by
  cases r with
  | powerOn uid pid notifier => exact powerOn_offLast s uid pid notifier hr
  | powerOff uid pid =>
    have hexit := powerOff_exit s uid pid a
    rw [handle_powerOff]
    generalize powerOff s uid pid a = o at hexit
    cases hexit with
    | refused => exact Or.inl (by simp [NoOff])
    | unregistered => exact Or.inl (by simp [NoOff])
    | kept _ d => exact Or.inl (unlink_quiet s d).noOff
    | shared _ d => exact Or.inl (unlink_quiet s d).noOff
    | closed _ d => exact Or.inl (unlink_quiet s d).noOff
    | last _ d _ _ _ _ o ho => exact (switchOff_offLast ho hr).append (unlink_quiet s d).noOff
  | getState => exact Or.inl (getState_quiet s a).noOff
  | killall uid =>
    have hexit := killall_exit s uid a
    rw [handle_killall]
    generalize killall s uid a = o at hexit
    cases hexit with
    | refused => exact Or.inl (by simp [NoOff])
    | notOpened _ _ hc => exact Or.inl (hc.quiet.append (openedCalls_quiet s a)).noOff
    | opened _ _ hc _ o ho => exact (switchOff_offLast ho hr).append (hc.quiet.append (openedCalls_quiet s a)).noOff
  | geteSEBindingStatus => exact Or.inl (by simp [handle, NoOff, Call.isPowerOff])
  | binderDied mPid =>
    rw [handle_binderDied, binderDied_eq]
    dsimp only
    split
    · exact offLast_cons s.nqNode hr (by simp [Quiet])
    · exact Or.inl (by simp [NoOff])

/-! ## One incident -/

/-- While calls succeed and the daemon is not restarted, the device stays accounted for. -/
theorem plantInv_incident {st : Site} (h : PlantInv st.world.daemon st.word) {i : Incident} (hs : i.Succeeds)
    (hr : i ≠ .restart) : PlantInv (site.next st i).world.daemon (site.next st i).word := by
  refine site_keeps h hr fun x hx => ?_
  obtain ⟨hword, hsucc⟩ := given_succeeds hx
  have hsame : { x.2 with word := st.word } = x.2 := by
    rw [← hword]
  have hkey := plantInv_step (p := ⟨st.world.daemon, st.word⟩) h (x := x) (hsucc hs)
  simp only [plant, hsame] at hkey
  exact hkey

/-- The node stays open while somebody is registered. -/
theorem nodeOpen_incident {st : Site} (h : NodeOpen st.world.daemon) (i : Incident) :
    NodeOpen (site.next st i).world.daemon := by
  by_cases hr : i = .restart
  · subst hr
    exact nodeOpen_of_isEmpty Std.ExtTreeMap.isEmpty_empty
  · exact site_keeps (I := fun s _ => NodeOpen s) h hr fun x _ => nodeOpen_step h x.1 x.2

/-- An incident with a power-off leaves nobody registered, and when its calls succeed the eSE off. -/
theorem incident_off {st : Site} {i : Incident} (hs : i.Succeeds) (hoff : ¬NoOff (st.calls i)) :
    (site.next st i).world.daemon.pidsMap.isEmpty = true ∧ ¬SpiPower (site.next st i).word := by
  have hr : i ≠ .restart := by
    rintro rfl
    exact hoff (by simp [NoOff, Site.calls, Site.given])
  have hword : (site.next st i).word = wordAfterAll st.word (st.calls i) := rfl
  rw [site_daemon st hr, hword]
  unfold Site.calls at hoff ⊢
  cases hg : st.given i with
  | none =>
    rw [hg] at hoff
    exact absurd (by simp [NoOff]) hoff
  | some x =>
    rw [hg] at hoff
    obtain ⟨-, hsucc⟩ := given_succeeds hg
    have hlast := handle_offLast st.world.daemon x.1 (hsucc hs).pwrOff
    refine ⟨?_, hlast.resolve_left hoff st.word⟩
    obtain ⟨c, hc, hco⟩ : ∃ c ∈ (handle st.world.daemon x.1 x.2).calls, c.isPowerOff = true := by
      simpa [NoOff] using hoff
    exact handle_empties hc hco

/-! ## Runs that are left on -/

/-- A restart leaves the eSE on exactly when it finds it on. -/
theorem leftOn_restart_iff {st : Site} {is : List Incident} (h : LeftOn st is → SpiPower (site.run st is).word) :
    LeftOn st (is ++ [.restart]) ↔ SpiPower (site.run st is).word := by
  constructor
  · rintro ⟨pre, post, heq, hp, hoff⟩
    rcases List.eq_nil_or_concat post with rfl | ⟨post', i, rfl⟩
    · obtain ⟨rfl, -⟩ := List.append_inj' heq rfl
      exact hp
    · rw [List.concat_eq_append, ← List.cons_append, ← List.append_assoc] at heq
      obtain ⟨rfl, -⟩ := List.append_inj' heq rfl
      refine h ⟨pre, post', rfl, hp, fun c hc => hoff c ?_⟩
      rw [List.concat_eq_append, Machine.outs_append, List.flatten_append]
      exact List.mem_append_left _ hc
  · intro hp
    exact ⟨is, [], rfl, hp, fun c hc => absurd hc (by simp [Machine.outs])⟩

/-- An incident but a restart leaves a run left on exactly when it makes no power-off. -/
theorem leftOn_incident_iff {st : Site} {is : List Incident} {i : Incident} (hr : i ≠ .restart) :
    LeftOn st (is ++ [i]) ↔ LeftOn st is ∧ NoOff ((site.run st is).calls i) := by
  constructor
  · rintro ⟨pre, post, heq, hp, hoff⟩
    rcases List.eq_nil_or_concat post with rfl | ⟨post', j, rfl⟩
    · obtain ⟨-, hi⟩ := List.append_inj' heq rfl
      exact absurd (List.singleton_inj.1 hi) hr
    · rw [List.concat_eq_append, ← List.cons_append, ← List.append_assoc] at heq
      obtain ⟨rfl, hi⟩ := List.append_inj' heq rfl
      obtain rfl := List.singleton_inj.1 hi
      rw [List.concat_eq_append, Machine.outs_append, List.flatten_append] at hoff
      refine ⟨⟨pre, post', rfl, hp, fun c hc => hoff c (List.mem_append_left _ hc)⟩, fun c hc => ?_⟩
      refine hoff c (List.mem_append_right _ ?_)
      rw [← Machine.run_append]
      simpa [Machine.outs, site] using hc
  · rintro ⟨⟨pre, post, rfl, hp, hoff⟩, hcalls⟩
    refine ⟨pre, post ++ [i], by simp, hp, fun c hc => ?_⟩
    rw [Machine.outs_append, List.flatten_append] at hc
    rcases List.mem_append.1 hc with hc | hc
    · exact hoff c hc
    · rw [← Machine.run_append] at hc
      refine hcalls c ?_
      simpa [Machine.outs, site] using hc

/-! ## The power of the eSE -/

/-- What is known after a run: no other use of the eSE is going on, the node is open while somebody is registered, and the eSE is
on exactly while somebody is registered or the run is left on. -/
structure Accounted (st : Site) (is : List Incident) : Prop where
  idle : NoConflict (site.run st is).word
  node : NodeOpen (site.run st is).world.daemon
  power : SpiPower (site.run st is).word ↔ (site.run st is).world.daemon.pidsMap.isEmpty = false ∨ LeftOn st is

/-- When the run is not left on, or somebody is registered, the device is accounted for by the registrations alone. -/
theorem Accounted.plantInv {st : Site} {is : List Incident} (h : Accounted st is)
    (hl : LeftOn st is → (site.run st is).world.daemon.pidsMap.isEmpty = false) :
    PlantInv (site.run st is).world.daemon (site.run st is).word :=
  ⟨⟨fun hp => (h.power.1 hp).elim id hl, fun hm => h.power.2 (Or.inl hm)⟩, h.idle, h.node⟩

/-- Every incident keeps the power accounted for. -/
theorem accounted_step {st : Site} {is : List Incident} (h : Accounted st is) {i : Incident} (hs : i.Succeeds) :
    Accounted st (is ++ [i]) := by
  have hrun : site.run st (is ++ [i]) = site.next (site.run st is) i := Machine.run_append site st is [i]
  have hidle : NoConflict (site.run st (is ++ [i])).word := by
    rw [hrun]
    exact noConflict_wordAfterAll _ h.idle
  have hnode : NodeOpen (site.run st (is ++ [i])).world.daemon := by
    rw [hrun]
    exact nodeOpen_incident h.node i
  refine ⟨hidle, hnode, ?_⟩
  by_cases hr : i = .restart
  · subst hr
    have hempty : (site.run st (is ++ [.restart])).world.daemon.pidsMap.isEmpty = true := by
      rw [hrun]
      exact Std.ExtTreeMap.isEmpty_empty
    have hword : (site.run st (is ++ [.restart])).word = (site.run st is).word := by
      rw [hrun]
      rfl
    rw [hempty, hword, leftOn_restart_iff fun hl => h.power.2 (Or.inr hl)]
    simp
  · rw [leftOn_incident_iff hr]
    by_cases hoff : NoOff ((site.run st is).calls i)
    · -- without a power-off the eSE stays on once it is
      have hkeep : SpiPower (site.run st is).word → SpiPower (site.run st (is ++ [i])).word := by
        intro hp
        rw [hrun]
        exact spiPower_wordAfterAll hoff hp
      by_cases hl : LeftOn st is
      · exact iff_of_true (hkeep (h.power.2 (Or.inr hl))) (Or.inr ⟨hl, hoff⟩)
      · have hplant := plantInv_incident (h.plantInv fun hl' => absurd hl' hl) hs hr
        rw [← hrun] at hplant
        rw [hplant.power]
        exact ⟨Or.inl, fun hor => hor.elim id fun hl' => absurd hl'.1 hl⟩
    · obtain ⟨hempty, hoffword⟩ := incident_off hs hoff
      rw [← hrun] at hempty hoffword
      refine iff_of_false hoffword ?_
      rintro (hm | ⟨-, hno⟩)
      · rw [hempty] at hm
        cases hm
      · exact hoff hno

/-- So does every run. -/
theorem accounted_run {word : BitVec 32} (hi : NoConflict word) (hoff : ¬SpiPower word) {is : List Incident}
    (hs : ∀ i ∈ is, i.Succeeds) : Accounted (Site.init word) is := by
  induction is using List.reverseRecOn with
  | nil =>
    refine ⟨hi, nodeOpen_of_isEmpty Std.ExtTreeMap.isEmpty_empty, iff_of_false hoff ?_⟩
    rintro (hm | ⟨pre, post, heq, -⟩)
    · simp [Site.init, World.init, State.init] at hm
    · simp at heq
  | append_singleton is i ih =>
    exact accounted_step (ih fun j hj => hs j (List.mem_append_left _ hj)) (hs i (by simp))

/-- While no call fails and nobody else uses the eSE, after every run of processes, notices, requests and restarts of the daemon:
the eSE is on exactly while somebody is registered, or since a restart that found it on nothing has switched it off. -/
theorem power_across_restarts (word : BitVec 32) (hi : NoConflict word) (hoff : ¬SpiPower word) (is : List Incident)
    (hs : ∀ i ∈ is, i.Succeeds) :
    let st := site.run (Site.init word) is
    SpiPower st.word ↔ st.world.daemon.pidsMap.isEmpty = false ∨ LeftOn (Site.init word) is :=
  (accounted_run hi hoff hs).power

/-- A process powers the eSE on, the daemon is restarted, and the process powers off and dies. -/
def abandoned : List Incident :=
  [.event (.start 5), .event (.powerOn 1000 5 (some 1) working), .restart, .event (.powerOff 1000 5 working),
    .event (.die 5)]

/-- Everybody has done what they should, nobody is registered, and the eSE is on. -/
theorem power_across_restarts_abandoned :
    (site.run (Site.init 0x100#32) abandoned).world.daemon.pidsMap.isEmpty = true ∧
      SpiPower (site.run (Site.init 0x100#32) abandoned).word ∧ LeftOn (Site.init 0x100#32) abandoned := by
  have hs : ∀ i ∈ abandoned, i.Succeeds := by
    intro i hi
    simp only [abandoned, List.mem_cons, List.not_mem_nil, or_false] at hi
    rcases hi with rfl | rfl | rfl | rfl | rfl
    · trivial
    · exact working_succeeds
    · trivial
    · exact working_succeeds
    · trivial
  have hempty : (site.run (Site.init 0x100#32) abandoned).world.daemon.pidsMap.isEmpty = true := by decide
  have hon : SpiPower (site.run (Site.init 0x100#32) abandoned).word := by decide
  have hpower := power_across_restarts 0x100#32 ⟨by decide, by decide⟩ (by decide) abandoned hs
  refine ⟨hempty, hon, (hpower.1 hon).resolve_left fun hm => ?_⟩
  rw [hempty] at hm
  cases hm

end EseManager
