import EseManager.Clients
import EseManager.Device

/-!
# No power-off under an active user

All threads of a process share one count, keyed by its pid. `SessionsInv` says that the count covers them: the map follows the
holds, and a pid has a hold for each of its threads between the reply to `powerOn` and `powerOff`. A handler that switches the eSE
off leaves the map empty, so it would leave those threads without their holds.
-/

namespace EseManager

variable {τ : Type*} [DecidableEq τ]

/-- The map follows the holds, every active thread has a hold of its pid behind it, and active threads are of client processes. -/
structure SessionsInv (clients : Pid → Prop) (s : Sessions τ × Holds Pid) : Prop where
  tracks : Tracks ServiceData.count s.1.daemon.pidsMap s.2
  backs : s.2.Backs s.1.Active
  clients : ∀ pid thread, s.1.Active pid thread → clients pid

/-- An action leaves the active threads alone: while a thread is active, nothing but its own `powerOff` switches the eSE off, and
that `powerOff` finds its pid registered. -/
structure Undisturbed (s : Sessions τ) (act : Action τ) : Prop where
  power : ∀ pid thread, s.Active pid thread → (∀ uid a, act ≠ .powerOff uid pid thread a) →
    ∀ c ∈ act.calls s.daemon, c.isPowerOff = false
  registered : ∀ uid pid thread a, act = .powerOff uid pid thread a → pid ∈ s.daemon.pidsMap

/-! ## The holds after an action -/

/-- The holds once an action is done. -/
def holdsAfter (s : Sessions τ × Holds Pid) (act : Action τ) : Holds Pid :=
  s.2.apply (actionOp act (act.reply s.1.daemon))

omit [DecidableEq τ] in
theorem holdsAfter_powerOn (s : Sessions τ × Holds Pid) (uid : Int) (pid : Pid) (thread : τ) (notifier : Option Binder)
    (a : Answers) : holdsAfter s (.powerOn uid pid thread notifier a) =
      s.2.apply (holdOp (.powerOn uid pid notifier) (powerOn s.1.daemon uid pid notifier a).ret) := rfl

omit [DecidableEq τ] in
theorem holdsAfter_powerOff (s : Sessions τ × Holds Pid) (uid : Int) (pid : Pid) (thread : τ) (a : Answers) :
    holdsAfter s (.powerOff uid pid thread a) = s.2.apply (if uidAllowed uid then .release pid else .keep) := rfl

omit [DecidableEq τ] in
/-- What others ask of the daemon leaves the holds of the clients. -/
theorem holdsAfter_other {clients : Pid → Prop} {s : Sessions τ × Holds Pid} {r : Request} {a : Answers}
    (ho : InOrder clients s.1 (.other r a)) {pid : Pid} (hp : clients pid) :
    holdsAfter s (.other r a) pid = s.2 pid := by
  have hne : ∀ q, ¬clients q → pid ≠ q := by
    intro q hq heq
    rw [heq] at hp
    exact hq hp
  have heq : holdsAfter s (.other r a) = s.2.apply (holdOp r (handle s.1.daemon r a).ret) := rfl
  rw [heq]
  cases r with
  | powerOn uid q notifier =>
    simp only [holdOp]
    split
    · simp [hne q ho]
    · simp
  | powerOff uid q =>
    simp only [holdOp]
    split
    · simp [hne q ho]
    · simp
  | getState => simp [holdOp]
  | killall uid => exact absurd ho id
  | geteSEBindingStatus => simp [holdOp]
  | binderDied q =>
    simp only [holdOp]
    simp [hne q ho]

/-! ## Keeping the invariant -/

theorem active_setPhase {s : Sessions τ} {pid : Pid} {thread : τ} {p : Phase} {d : State} {q : Pid} {u : τ}
    (h : Sessions.Active { daemon := d, phase := setPhase s.phase pid thread p } q u) :
    s.Active q u ∨ (q = pid ∧ u = thread ∧ p ≠ .idle) := by
  by_cases he : q = pid ∧ u = thread
  · obtain ⟨rfl, rfl⟩ := he
    refine Or.inr ⟨rfl, rfl, ?_⟩
    simpa [Sessions.Active] using h
  · refine Or.inl ?_
    intro hidle
    exact h ((setPhase_of_ne s.phase p he).trans hidle)

/-- After an action the map follows the holds, as long as no pid reaches 2^31 of them. -/
theorem tracks_action {s : Sessions τ × Holds Pid} (ht : Tracks ServiceData.count s.1.daemon.pidsMap s.2)
    (act : Action τ) (hb : (holdsAfter s act).Below (2 ^ 31)) :
    Tracks ServiceData.count (sessions.next s.1 act).daemon.pidsMap (holdsAfter s act) := by
  cases act with
  | powerOn uid pid thread notifier a => exact tracks_step ht (.powerOn uid pid notifier) a hb
  | getEseCplc pid thread => exact ht
  | powerOff uid pid thread a => exact tracks_step ht (.powerOff uid pid) a hb
  | other r a => exact tracks_step ht r a hb

/-- After an action in order every active thread still has a hold behind it. -/
theorem backs_action {clients : Pid → Prop} {s : Sessions τ × Holds Pid} (hi : SessionsInv clients s) {act : Action τ}
    (ho : InOrder clients s.1 act) : (holdsAfter s act).Backs (sessions.next s.1 act).Active := by
  cases act with
  | powerOn uid pid thread notifier a =>
    rw [holdsAfter_powerOn]
    rcases powerOn_cases s.1.daemon uid pid notifier a with ⟨hneg, -⟩ | ⟨hone, -⟩
    · -- the thread stays idle
      rw [holdOp_powerOn_of_neg hneg, Holds.apply_keep]
      refine hi.backs.mono (fun q u hact => ?_) (fun _ _ _ => Nat.le_refl _)
      refine (active_setPhase hact).resolve_right ?_
      intro he
      exact he.2.2 (by simp [Phase.afterPowerOn, hneg])
    · rw [hone, holdOp_powerOn_one]
      refine hi.backs.acquire (u := thread) (fun q u hact => ?_)
      rcases active_setPhase hact with h | h
      · exact Or.inl h
      · exact Or.inr ⟨h.1, h.2.1⟩
  | getEseCplc pid thread =>
    obtain ⟨-, hphase⟩ := ho
    have hthread : s.1.Active pid thread := by
      unfold Sessions.Active
      rw [hphase]
      decide
    refine hi.backs.mono (fun q u hact => ?_) (fun _ _ _ => Nat.le_refl _)
    rcases active_setPhase hact with h | ⟨hq, hu, -⟩
    · exact h
    · rw [hq, hu]
      exact hthread
  | powerOff uid pid thread a =>
    obtain ⟨-, hphase⟩ := ho
    have hthread : s.1.Active pid thread := by
      unfold Sessions.Active
      rw [hphase]
      decide
    have hact : ∀ q u, (sessions.next s.1 (.powerOff uid pid thread a)).Active q u →
        s.1.Active q u ∧ ¬(q = pid ∧ u = thread) := by
      intro q u h
      constructor
      · exact (active_setPhase h).resolve_right (fun he => he.2.2 rfl)
      · intro he
        obtain ⟨rfl, rfl⟩ := he
        exact h (setPhase_self s.1.phase q u .idle)
    rw [holdsAfter_powerOff]
    split
    · exact hi.backs.release hthread hact
    · exact hi.backs.mono (fun q u h => (hact q u h).1) (fun _ _ _ => Nat.le_refl _)
  | other r a =>
    refine hi.backs.mono (fun _ _ h => h) (fun q u h => ?_)
    rw [holdsAfter_other ho (hi.clients q u h)]

theorem clients_action {clients : Pid → Prop} {s : Sessions τ × Holds Pid} (hi : SessionsInv clients s) {act : Action τ}
    (ho : InOrder clients s.1 act) : ∀ pid thread, (sessions.next s.1 act).Active pid thread → clients pid := by
  intro q u h
  cases act with
  | powerOn uid pid thread notifier a =>
    rcases active_setPhase h with h | ⟨hq, -, -⟩
    · exact hi.clients q u h
    · rw [hq]
      exact ho.1
  | getEseCplc pid thread =>
    rcases active_setPhase h with h | ⟨hq, -, -⟩
    · exact hi.clients q u h
    · rw [hq]
      exact ho.1
  | powerOff uid pid thread a =>
    rcases active_setPhase h with h | ⟨hq, -, -⟩
    · exact hi.clients q u h
    · rw [hq]
      exact ho.1
  | other r a => exact hi.clients q u h

/-- An action in order keeps the invariant, as long as no pid reaches 2^31 holds. -/
theorem sessionsInv_step {clients : Pid → Prop} {s : Sessions τ × Holds Pid} (hi : SessionsInv clients s) {act : Action τ}
    (ho : InOrder clients s.1 act) (hb : (holdsAfter s act).Below (2 ^ 31)) :
    SessionsInv clients (heldSessions.next s act) :=
  ⟨tracks_action hi.tracks act hb, backs_action hi ho, clients_action hi ho⟩

/-! ## Nobody is disturbed -/

/-- An action of the daemon that switches the eSE off leaves the map empty. -/
theorem action_empties {s : Sessions τ} {act : Action τ} {c : Call} (hc : c ∈ act.calls s.daemon)
    (hoff : c.isPowerOff = true) : (sessions.next s act).daemon.pidsMap.isEmpty = true := by
  cases act with
  | powerOn uid pid thread notifier a => exact handle_empties (r := .powerOn uid pid notifier) hc hoff
  | getEseCplc pid thread => exact absurd hc List.not_mem_nil
  | powerOff uid pid thread a => exact handle_empties (r := .powerOff uid pid) hc hoff
  | other r a => exact handle_empties (r := r) hc hoff

/-- An active thread stays active through every action but its own `powerOff`. -/
theorem active_action {clients : Pid → Prop} {s : Sessions τ} {act : Action τ} (ho : InOrder clients s act) {pid : Pid}
    {thread : τ} (h : s.Active pid thread) (hne : ∀ uid a, act ≠ .powerOff uid pid thread a) :
    (sessions.next s act).Active pid thread := by
  have hother : ∀ q u p, ¬(pid = q ∧ thread = u) → setPhase s.phase q u p pid thread ≠ .idle := by
    intro q u p he
    rw [setPhase_of_ne s.phase p he]
    exact h
  cases act with
  | powerOn uid q u notifier a =>
    refine hother q u _ ?_
    intro he
    obtain ⟨rfl, rfl⟩ := he
    exact h ho.2
  | getEseCplc q u =>
    by_cases he : pid = q ∧ thread = u
    · obtain ⟨rfl, rfl⟩ := he
      have hread : setPhase s.phase pid thread .read pid thread = .read := setPhase_self _ _ _ _
      intro hidle
      exact absurd (hread.symm.trans hidle) (by decide)
    · exact hother q u _ he
  | powerOff uid q u a =>
    refine hother q u _ ?_
    intro he
    obtain ⟨rfl, rfl⟩ := he
    exact hne uid a rfl
  | other r a => exact h

/-- Under the invariant, an action in order disturbs nobody. -/
theorem undisturbed_of_inv {clients : Pid → Prop} {s : Sessions τ × Holds Pid} (hi : SessionsInv clients s)
    {act : Action τ} (ho : InOrder clients s.1 act) (hb : (holdsAfter s act).Below (2 ^ 31)) : Undisturbed s.1 act := by
  have hnext := sessionsInv_step hi ho hb
  constructor
  · intro pid thread hact hne c hc
    by_contra hoff
    rw [Bool.not_eq_false] at hoff
    -- the thread is still active after the power-off, so its pid has a hold, but the map is empty
    have hstill : (heldSessions.next s act).1.Active pid thread := active_action ho hact hne
    have hpos := hnext.backs.pos hstill
    have hempty : (heldSessions.next s act).1.daemon.pidsMap.isEmpty = true := action_empties hc hoff
    rw [hnext.tracks.isEmpty_iff] at hempty
    exact hempty ⟨pid, hpos⟩
  · intro uid pid thread a hact
    subst hact
    have hthread : s.1.Active pid thread := by
      unfold Sessions.Active
      rw [ho.2]
      decide
    rw [hi.tracks.mem_iff]
    exact hi.backs.pos hthread

/-- No power-off under an active user. In every run of the daemon with any number of client processes and threads that follow the
client sequence, together with any requests and death notices of other pids, whatever the device, Binder and the fingerprint CA
answer, and with fewer than 2^31 holds of every pid: while a thread is between a reply to `powerOn` that is not negative and its
`powerOff`, only that `powerOff` can switch the eSE off, and it does not find its pid unregistered. -/
theorem no_power_off_under_user (clients : Pid → Prop) (acts : List (Action τ))
    (ho : sessions.Along (InOrder clients) (Sessions.init τ) acts)
    (hb : heldSessions.Always (fun s => s.2.Below (2 ^ 31)) (heldInit τ) acts) :
    sessions.Along Undisturbed (Sessions.init τ) acts := by
  have hinit : SessionsInv clients (heldInit τ) := by
    refine ⟨Tracks.empty, ?_, ?_⟩
    · intro pid us hus
      rcases us.eq_empty_or_nonempty with hemp | ⟨u, hu⟩
      · rw [hemp, Finset.card_empty]
        exact Nat.zero_le _
      · exact absurd rfl (hus u hu)
    · intro pid thread h
      exact absurd rfl h
  have ho' : heldSessions.Along (fun s act => InOrder clients s.1 act) (heldInit τ) acts :=
    (sessions.track_along _ (InOrder clients) _ _ acts).2 ho
  have hsteps := Machine.along_and.2 ⟨ho', hb.along_next⟩
  have hkey : heldSessions.Along (fun s act => Undisturbed s.1 act) (heldInit τ) acts := by
    refine Machine.along_of_inv (I := SessionsInv clients) (fun s act hi hp => ?_) hinit hsteps
    exact ⟨sessionsInv_step hi hp.1 hp.2, undisturbed_of_inv hi hp.1 hp.2⟩
  exact (sessions.track_along _ Undisturbed _ _ acts).1 hkey

/-- Two threads of pid 5 with overlapping sequences, and an app that asks for the state in between. -/
def overlapping : List (Action Nat) :=
  [.powerOn 1000 5 0 (some 1) working, .powerOn 1000 5 1 (some 2) working, .getEseCplc 5 0,
    .other (.powerOn 10050 77 none) working, .powerOff 1000 5 0 working, .getEseCplc 5 1, .powerOff 1000 5 1 working]

/-- Neither of two overlapping threads is disturbed. -/
theorem no_power_off_under_overlapping : sessions.Along Undisturbed (Sessions.init Nat) overlapping := by
  refine no_power_off_under_user (fun pid => pid = 5) overlapping ?_
    (Holds.always_below_of_length_lt sessions actionOp (Sessions.init Nat) (by decide))
  have hother : ¬(77 : Pid) = 5 := by decide
  exact ⟨⟨rfl, rfl⟩, ⟨rfl, by decide⟩, ⟨rfl, by decide⟩, hother, ⟨rfl, by decide⟩, ⟨rfl, by decide⟩, ⟨rfl, by decide⟩, trivial⟩

end EseManager
