import EseManager.Device
import EseManager.Lemmas.Handlers

/-!
# Power switching during a firmware download

While the NFC controller loads firmware, the status word shows `P61_STATE_DWNLD` and the eSE must be left alone. `powerOff` and
`killall` ask for the bit before they switch; `powerOn` asks for it only when the SPI bits are clear, and `binderDied` never.
`download_undisturbed_iff` says which steps disturb a download.
-/

namespace EseManager

/-- In a step during a download, no power call is made. -/
def DownloadUndisturbed (s : State) (x : Request × Answers) : Prop :=
  has x.2.word p61StateDwnld = true → Quiet (handle s x.1 x.2).calls

/-- A request that switches the eSE off without a look at the download bit: the death of the last registered client, with the
node open, or a `powerOn` without a notifier that finds the SPI bits set and nobody registered. -/
def SkipsDownloadTest (s : State) (r : Request) (a : Answers) : Prop :=
  match r with
  | .binderDied mPid => (s.pidsMap.erase mPid).isEmpty = true ∧ 0 ≤ s.nqNode
  | .powerOn uid _ none =>
    Admitted s uid a ∧ 0 ≤ a.statusRet ∧ has a.word (p61StateSpi ||| p61StateSpiPrio) = true ∧ s.pidsMap.isEmpty = true
  | _ => False

/-- A power call is not quiet. -/
theorem not_quiet_of_mem {cs : List Call} {c : Call} (hc : c ∈ cs) (hp : c.isPower = true) : ¬Quiet cs := by
  intro h
  rw [h c hc] at hp
  cases hp

/-- During a download, the end of `powerOn` switches power exactly when there is no notifier and nobody is registered. -/
theorem register_quiet_iff {s : State} {pid : Pid} {notifier : Option Binder} {a : Answers} {o : Outcome}
    (h : RegisterExit s pid notifier a o) : Quiet o.calls ↔ ¬(notifier = none ∧ s.pidsMap.isEmpty = true) := by
  cases h with
  | shared hn he =>
    refine iff_of_true (by simp [Quiet]) ?_
    rintro ⟨-, he'⟩
    rw [he] at he'
    cases he'
  | undoFailed hn he hr =>
    exact iff_of_false (not_quiet_of_mem (List.mem_cons_self) rfl) (fun hc => hc ⟨hn, he⟩)
  | undone hn he hr node hnode =>
    exact iff_of_false (not_quiet_of_mem (List.mem_cons_self) rfl) (fun hc => hc ⟨hn, he⟩)
  | linkFailed cb hn hl =>
    refine iff_of_true (by simp [Quiet, Call.isPower]) ?_
    rintro ⟨hn', -⟩
    rw [hn] at hn'
    cases hn'
  | registered cb hn hl =>
    refine iff_of_true (by simp [Quiet, Call.isPower]) ?_
    rintro ⟨hn', -⟩
    rw [hn] at hn'
    cases hn'

/-- `powerOn` switches off without the test when it finds the eSE on and has nobody to register. -/
theorem skipsDownloadTest_powerOn_iff {s : State} {uid : Int} {pid : Pid} {notifier : Option Binder} {a : Answers} :
    SkipsDownloadTest s (.powerOn uid pid notifier) a ↔ Admitted s uid a ∧ 0 ≤ a.statusRet ∧
      has a.word (p61StateSpi ||| p61StateSpiPrio) = true ∧ notifier = none ∧ s.pidsMap.isEmpty = true := by
  cases notifier <;> simp [SkipsDownloadTest]

theorem powerOn_quiet_iff {s : State} {uid : Int} {pid : Pid} {notifier : Option Binder} {a : Answers}
    (hd : has a.word p61StateDwnld = true) :
    Quiet (powerOn s uid pid notifier a).calls ↔ ¬SkipsDownloadTest s (.powerOn uid pid notifier) a := by
  rw [skipsDownloadTest_powerOn_iff]
  by_cases hadm : Admitted s uid a
  · have heq := powerOn_admitted hadm pid notifier
    have hq := admittedCalls_quiet s a
    have hexit := powerOnNode_exit (admittedState s a) pid notifier a
    have hstatus : Quiet [statusCall (admittedState s a) a] := by simp [Quiet, statusCall, Call.isPower]
    rw [heq, Outcome.after_calls, hq.append_iff]
    generalize powerOnNode (admittedState s a) pid notifier a = o at hexit
    cases hexit with
    | statusFailed hst =>
      refine iff_of_true hstatus ?_
      rintro ⟨-, hst', -⟩
      omega
    | switchFailed hst ret switched hs =>
      cases hs with
      | downloading hoff _ =>
        refine iff_of_true hstatus ?_
        rintro ⟨-, -, hon, -⟩
        rw [hoff] at hon
        cases hon
      | schemeFailed _ hd' =>
        rw [hd] at hd'
        cases hd'
      | powerFailed _ hd' =>
        rw [hd] at hd'
        cases hd'
    | on hst switched hs o hr =>
      cases hs with
      | alreadyOn hon =>
        rw [Outcome.after_calls, hstatus.append_iff, register_quiet_iff hr]
        constructor
        · rintro h ⟨-, -, -, hn, he⟩
          exact h ⟨hn, he⟩
        · rintro h ⟨hn, he⟩
          exact h ⟨hadm, hst, hon, hn, he⟩
      | switched _ hd' =>
        rw [hd] at hd'
        cases hd'
  · obtain ⟨-, hq, -⟩ := powerOn_refused hadm pid notifier
    exact iff_of_true hq (fun h => hadm h.1)

/-- During a download, `switchOff` gives up. -/
theorem switchOff_quiet {s : State} {a : Answers} {done : Int} {o : Outcome} (hd : has a.word p61StateDwnld = true)
    (h : SwitchOffExit s a done o) : Quiet o.calls := by
  have hst := (has_eseCurrentState_dwnld a).2 (Or.inr hd)
  cases h with
  | busy => simp [Quiet, statusCall, Call.isPower]
  | offFailed hd' =>
    rw [hst] at hd'
    cases hd'
  | off hd' =>
    rw [hst] at hd'
    cases hd'

/-- `powerOff` tests for a download before it switches off. -/
theorem powerOff_quiet {s : State} {uid : Int} {pid : Pid} {a : Answers} (hd : has a.word p61StateDwnld = true) :
    Quiet (powerOff s uid pid a).calls := by
  have hexit := powerOff_exit s uid pid a
  generalize powerOff s uid pid a = o at hexit
  cases hexit with
  | refused => simp [Quiet]
  | unregistered => simp [Quiet]
  | kept _ d => exact unlink_quiet s d
  | shared _ d => exact unlink_quiet s d
  | closed _ d => exact unlink_quiet s d
  | last _ d _ _ _ _ o ho => exact (unlink_quiet s d).append (switchOff_quiet hd ho)

/-- So does `killall`. -/
theorem killall_quiet {s : State} {uid : Int} {a : Answers} (hd : has a.word p61StateDwnld = true) :
    Quiet (killall s uid a).calls := by
  have hexit := killall_exit s uid a
  generalize killall s uid a = o at hexit
  cases hexit with
  | refused => simp [Quiet]
  | notOpened _ _ hc => exact hc.quiet.append (openedCalls_quiet s a)
  | opened _ _ hc _ o ho => exact (hc.quiet.append (openedCalls_quiet s a)).append (switchOff_quiet hd ho)

theorem binderDied_quiet_iff {s : State} {mPid : Pid} {a : Answers} :
    Quiet (binderDied s mPid a).calls ↔ ¬SkipsDownloadTest s (.binderDied mPid) a := by
  rw [binderDied_eq]
  by_cases h : (s.pidsMap.erase mPid).isEmpty = true ∧ 0 ≤ s.nqNode
  · rw [if_pos h]
    exact iff_of_false (not_quiet_of_mem (List.mem_singleton_self _) rfl) (fun hn => hn h)
  · rw [if_neg h]
    exact iff_of_true (by simp [Quiet]) h

/-- A step during a download switches power exactly when its request skips the test. -/
theorem downloadUndisturbed_iff (s : State) (x : Request × Answers) :
    DownloadUndisturbed s x ↔ ¬(has x.2.word p61StateDwnld = true ∧ SkipsDownloadTest s x.1 x.2) := by
  obtain ⟨r, a⟩ := x
  by_cases hd : has a.word p61StateDwnld = true
  · have hkey : Quiet (handle s r a).calls ↔ ¬SkipsDownloadTest s r a := by
      cases r with
      | powerOn uid pid notifier => exact powerOn_quiet_iff hd
      | powerOff uid pid => exact iff_of_true (powerOff_quiet hd) id
      | getState => exact iff_of_true (getState_quiet s a) id
      | killall uid => exact iff_of_true (killall_quiet hd) id
      | geteSEBindingStatus => exact iff_of_true (by simp [handle, Quiet, Call.isPower]) id
      | binderDied mPid => exact binderDied_quiet_iff
    unfold DownloadUndisturbed
    simp only [hd, hkey, forall_const, true_and]
  · refine iff_of_true (fun h => absurd h hd) ?_
    rintro ⟨h, -⟩
    exact hd h

/-- Over every run, with the status word changing in any way between its steps: no step during a firmware download switches power,
exactly when no step during one skips the test of the download bit. -/
theorem download_undisturbed_iff (xs : List (Request × Answers)) :
    daemon.Along DownloadUndisturbed State.init xs ↔
      daemon.Along (fun s x => ¬(has x.2.word p61StateDwnld = true ∧ SkipsDownloadTest s x.1 x.2)) State.init xs :=
  daemon.along_congr downloadUndisturbed_iff State.init xs

/-- The only client dies during a download, and the eSE is switched off. -/
theorem download_disturbed_by_death :
    let xs : List (Request × Answers) :=
      [(.powerOn 1000 5 (some 1), working), (.binderDied 5, { working with word := 0x0c00#32 })]
    (∀ x ∈ xs, 0 ≤ x.2.statusRet) ∧
      (binderDied (daemon.run State.init [(.powerOn 1000 5 (some 1), working)]) 5 { working with word := 0x0c00#32 }).calls =
        [.ioctl 3 (.setSpmPwr 0) 0] ∧
      ¬daemon.Along DownloadUndisturbed State.init xs := by
  refine ⟨by decide, by decide, ?_⟩
  rintro ⟨-, h, -⟩
  exact absurd (h (by decide) (.ioctl 3 (.setSpmPwr 0) 0) (by decide)) (by decide)

end EseManager
