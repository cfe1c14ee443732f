import EseManager.Device
import EseManager.Processes

/-!
# Processes, daemon and device, across restarts of the daemon

`site` puts the processes of `world` over the device: the status word that a handler reads is the one that the calls of the daemon
have left. It also has what `world` leaves out: the requests that are no client's business (`killall`, `getState`,
`geteSEBindingStatus`), which any process may send, and the death of the daemon itself.

When the daemon dies, the registrations, the death links that it had made and the notices to it go with it. Its processes live on,
and so does the status word: nothing switches the eSE off when the daemon goes.
-/

namespace EseManager

/-- The processes, the daemon, and the status word of the device. -/
structure Site where
  world : World
  word : BitVec 32

/-- A freshly started daemon, no process, and a device that shows `word`. -/
def Site.init (word : BitVec 32) : Site := { world := World.init, word := word }

/-- What happens: something to a process or a notice, a request that changes no process, or a restart of the daemon. -/
inductive Incident where
  | event (e : Event)
  | killall (uid : Int) (a : Answers)
  | getState (a : Answers)
  | geteSEBindingStatus (a : Answers)
  | restart
  deriving DecidableEq, Repr

/-- The event, with the status word that the daemon reads in it. -/
def Event.withWord (word : BitVec 32) : Event → Event
  | .start pid => .start pid
  | .powerOn uid pid notifier a => .powerOn uid pid notifier { a with word := word }
  | .powerOff uid pid a => .powerOff uid pid { a with word := word }
  | .die pid => .die pid
  | .notice n a => .notice n { a with word := word }
  | .lapse n => .lapse n

/-- What the daemon is given in an incident, if it takes part. -/
def Site.given (st : Site) : Incident → Option (Request × Answers)
  | .event e => st.world.given (e.withWord st.word)
  | .killall uid a => some (.killall uid, { a with word := st.word })
  | .getState a => some (.getState, { a with word := st.word })
  | .geteSEBindingStatus a => some (.geteSEBindingStatus, { a with word := st.word })
  | .restart => none

/-- The process once the daemon has died: the links made for it are gone. -/
def Process.unlinked (p : Process) : Process := { p with linked := [] }

/-- The processes after a request that changes none of them. -/
def World.handled (w : World) (r : Request) (a : Answers) : World := { w with daemon := (handle w.daemon r a).state }

/-- The processes with a new daemon. -/
def World.restarted (w : World) : World :=
  { daemon := State.init, live := fun pid => (w.live pid).map Process.unlinked, notices := [] }

/-- The processes after an incident. -/
def worldAfter (st : Site) : Incident → World
  | .event e => world.next st.world (e.withWord st.word)
  | .killall uid a => st.world.handled (.killall uid) { a with word := st.word }
  | .getState a => st.world.handled .getState { a with word := st.word }
  | .geteSEBindingStatus a => st.world.handled .geteSEBindingStatus { a with word := st.word }
  | .restart => st.world.restarted

/-- The calls of the daemon in an incident. -/
def Site.calls (st : Site) (i : Incident) : List Call :=
  match st.given i with
  | none => []
  | some x => (handle st.world.daemon x.1 x.2).calls

/-- The processes over the device; an incident gives the calls of the daemon. -/
def site : Machine Site Incident (List Call) where
  next st i := { world := worldAfter st i, word := wordAfterAll st.word (st.calls i) }
  out st i := st.calls i

/-- Nothing is left that could still release a hold: no process lives, and no notice is in flight. -/
def Site.Quiescent (st : Site) : Prop := (∀ pid, st.world.live pid = none) ∧ st.world.notices = []

/-- All calls to the device and to Binder succeed, if any are made. -/
def Incident.Succeeds : Incident → Prop
  | .event (.powerOn _ _ _ a) => a.Succeeds
  | .event (.powerOff _ _ a) => a.Succeeds
  | .event (.notice _ a) => a.Succeeds
  | .event (.start _) => True
  | .event (.die _) => True
  | .event (.lapse _) => True
  | .killall _ a => a.Succeeds
  | .getState a => a.Succeeds
  | .geteSEBindingStatus a => a.Succeeds
  | .restart => True

/-! ## What the daemon is given -/

/-- An incident but a restart leaves the daemon as the handler does, if it is given anything. -/
theorem site_daemon (st : Site) {i : Incident} (h : i ≠ .restart) :
    (site.next st i).world.daemon =
      match st.given i with
      | none => st.world.daemon
      | some x => (handle st.world.daemon x.1 x.2).state := by
  cases i with
  | event e => rfl
  | killall => rfl
  | getState => rfl
  | geteSEBindingStatus => rfl
  | restart => exact absurd rfl h

/-- The daemon reads the word of the device, and its calls succeed if they are to. -/
theorem given_succeeds {st : Site} {i : Incident} {x : Request × Answers} (h : st.given i = some x) :
    x.2.word = st.word ∧ (i.Succeeds → x.2.Succeeds) := by
  cases i with
  | event e =>
    cases e with
    | start => cases h
    | die => cases h
    | lapse => cases h
    | powerOn uid pid notifier a =>
      obtain ⟨p, -, rfl⟩ := Option.map_eq_some_iff.1 h
      exact ⟨rfl, fun hs => Answers.Succeeds.with_word hs st.word⟩
    | powerOff uid pid a =>
      obtain ⟨p, -, rfl⟩ := Option.map_eq_some_iff.1 h
      exact ⟨rfl, fun hs => Answers.Succeeds.with_word hs st.word⟩
    | notice n a =>
      simp only [Site.given, Event.withWord, World.given] at h
      split at h
      · cases h
        exact ⟨rfl, fun hs => Answers.Succeeds.with_word hs st.word⟩
      · cases h
  | killall uid a =>
    cases h
    exact ⟨rfl, fun hs => Answers.Succeeds.with_word hs st.word⟩
  | getState a =>
    cases h
    exact ⟨rfl, fun hs => Answers.Succeeds.with_word hs st.word⟩
  | geteSEBindingStatus a =>
    cases h
    exact ⟨rfl, fun hs => Answers.Succeeds.with_word hs st.word⟩
  | restart => cases h

/-- What holds of daemon and word, and is kept by every handler that reads the word of the device, is kept by every incident but a
restart. -/
theorem site_keeps {I : State → BitVec 32 → Prop} {st : Site} (h : I st.world.daemon st.word) {i : Incident}
    (hr : i ≠ .restart)
    (hstep : ∀ x, st.given i = some x →
      I (handle st.world.daemon x.1 x.2).state (wordAfterAll st.word (handle st.world.daemon x.1 x.2).calls)) :
    I (site.next st i).world.daemon (site.next st i).word := by
  have hword : (site.next st i).word = wordAfterAll st.word (st.calls i) := rfl
  rw [site_daemon st hr, hword]
  unfold Site.calls
  cases hg : st.given i with
  | none => exact h
  | some x => exact hstep x hg

end EseManager
