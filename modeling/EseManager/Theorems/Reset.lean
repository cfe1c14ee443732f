import EseManager.Device
import EseManager.Registrations

/-!
# What is left after killall

`killall` clears the registrations, and with them go the notifiers that are stored in them. So a `killall` that succeeds makes the
daemon a new one, but for the exemption of the first call, and one that fails has forgotten its clients all the same.
-/

namespace EseManager

/-- A daemon that has just been started, but for the exemption of the first call, which is as in `s`, and for the notifiers that
have been made. -/
def State.restarted (s : State) : State := { State.init with isFirstCalled := s.isFirstCalled, allocs := s.allocs }

/-- `killall` by an authorised caller: either it succeeds, which is when its reply is not negative, the eSE is switched off and the
node closed if the close succeeds; or it fails and switches nothing. Nobody is registered after either. -/
theorem killall_cases {s : State} {uid : Int} {a : Answers} (hu : uidAllowed uid = true) :
    (killall s uid a).state.pidsMap = ∅ ∧
      ((0 ≤ (killall s uid a).ret ∧ (∀ word, ¬SpiPower (wordAfterAll word (killall s uid a).calls)) ∧
          (a.closeRet = 0 → (killall s uid a).state = s.restarted)) ∨
        ((killall s uid a).ret < 0 ∧ ∀ word, wordAfterAll word (killall s uid a).calls = word)) := by
  have hexit := killall_exit s uid a
  generalize killall s uid a = o at hexit
  cases hexit with
  | refused hu' =>
    rw [hu] at hu'
    cases hu'
  | notOpened _ unlinked hc hn =>
    have hq : Quiet (unlinked ++ openedCalls s a) := hc.quiet.append (openedCalls_quiet s a)
    exact ⟨rfl, Or.inr ⟨hn, wordAfterAll_of_quiet hq⟩⟩
  | opened _ unlinked hc _ o ho =>
    have hq : Quiet (unlinked ++ openedCalls s a) := hc.quiet.append (openedCalls_quiet s a)
    simp only [Outcome.after_state, Outcome.after_ret, Outcome.after_calls, wordAfterAll_quiet_append hq]
    cases ho with
    | busy => exact ⟨rfl, Or.inr ⟨by simp [ebusy], fun word => rfl⟩⟩
    | offFailed _ hr => exact ⟨rfl, Or.inr ⟨hr, fun word => by simp [wordAfterAll, wordAfter, statusCall, hr]⟩⟩
    | off _ hr node hnode =>
      refine ⟨rfl, Or.inl ⟨hr, fun word => ?_, fun hclose => ?_⟩⟩
      · have hw : wordAfterAll word [statusCall (clearedState s a) a, .ioctl (clearedState s a).nqNode (.setSpmPwr 0) a.pwrOffRet,
            .closeNode (clearedState s a).nqNode a.closeRet] = word &&& ~~~p61StateSpi := wordAfter_off (clearedState s a).nqNode hr word
        rw [hw]
        exact not_spiPower_clear word
      · rw [if_neg (not_not.2 hclose)] at hnode
        subst hnode
        rfl

/-- From any state of the daemon, whatever has failed before: after an authorised `killall` that replies no error and closes the
node, the eSE is off, and to every later sequence of requests and notices the daemon gives the replies and makes the calls of one
that has just been started, with the same exemption of the first call. After one that replies an error nobody is registered any
more, though it has switched nothing. -/
theorem killall_resets (s : State) (uid : Int) (a : Answers) (hu : uidAllowed uid = true) :
    (0 ≤ (killall s uid a).ret → a.closeRet = 0 →
        (∀ word, ¬SpiPower (wordAfterAll word (killall s uid a).calls)) ∧
          ∀ xs, daemon.outs (killall s uid a).state xs = daemon.outs s.restarted xs) ∧
      ((killall s uid a).ret < 0 →
        (killall s uid a).state.pidsMap = ∅ ∧ ∀ word, wordAfterAll word (killall s uid a).calls = word) := by
  obtain ⟨hempty, ⟨hret, hoff, hstate⟩ | ⟨hret, hword⟩⟩ := killall_cases (s := s) (a := a) hu
  · refine ⟨fun _ hclose => ⟨hoff, fun xs => ?_⟩, fun hneg => absurd hneg (Int.not_lt.2 hret)⟩
    rw [hstate hclose]
  · exact ⟨fun hpos => absurd hret (Int.not_lt.2 hpos), fun _ => ⟨hempty, hword⟩⟩

/-- A daemon with a client that has powered the eSE on twice and off once. -/
def oneHoldLeft : State :=
  daemon.run State.init
    [(.powerOn 1000 5 (some 1), working), (.powerOn 1000 5 (some 2), working), (.powerOff 1000 5, working)]

/-- After `killall` the eSE is off, and the daemon is as good as new to the same client. -/
theorem killall_resets_oneHoldLeft :
    let again : List (Request × Answers) := [(.powerOff 1000 5, working), (.powerOn 1000 5 (some 3), working), (.getState, working)]
    ¬SpiPower (wordAfterAll 0x800#32 (killall oneHoldLeft 0 working).calls) ∧
      daemon.outs (killall oneHoldLeft 0 working).state again =
        daemon.outs { State.init with isFirstCalled := false, allocs := 2 } again := by
  intro again
  obtain ⟨hreset, -⟩ := killall_resets oneHoldLeft 0 working (by decide)
  obtain ⟨hoff, houts⟩ := hreset (by decide) rfl
  exact ⟨hoff _, houts again⟩

end EseManager
