import EseManager.Registrations

/-!
# Processes, their deaths, and the notices of them

The daemon keys registrations and death notices by pid, but a pid outlives its process: once a process is dead, its pid may be
given to a new one, and the notice of the death is delivered at some later time. `world` is the daemon with the processes: each
starts, sends power requests and dies, and the notices of the dead are in flight until they are delivered, in any order. Binder
promotes its weak reference to the notifier only when it handles a notice, so that a notice may also be lost: it lapses, if by then no
entry stores its notifier.

An event that cannot happen (a start of a live process, a request or the death of a dead one, a notice that is not in flight, or one
lost whose link is in place) changes nothing.
-/

namespace EseManager

/-- A process, from its start to its death: the 1-replies to its `powerOn` requests, the `powerOff` requests it has made, and the
death links made for it. -/
structure Process where
  ones : Nat
  offs : Nat
  linked : List Link
  deriving DecidableEq, Repr

/-- A process that has just started. -/
def Process.started : Process := { ones := 0, offs := 0, linked := [] }

/-- The process has more 1-replies than it has made `powerOff` requests. -/
def Process.Holds (p : Process) : Prop := p.offs < p.ones

instance (p : Process) : Decidable p.Holds := inferInstanceAs (Decidable (p.offs < p.ones))

/-- The daemon, the live process of each pid, and the death notices in flight. -/
structure World where
  daemon : State
  live : Pid → Option Process
  notices : List ClientDiedNotifier

/-- A freshly started daemon, and no client process. -/
def World.init : World := { daemon := State.init, live := fun _ => none, notices := [] }

/-- What happens to a process, or to a notice. -/
inductive Event where
  | start (pid : Pid)
  | powerOn (uid : Int) (pid : Pid) (notifier : Option Binder) (a : Answers)
  | powerOff (uid : Int) (pid : Pid) (a : Answers)
  | die (pid : Pid)
  | notice (n : ClientDiedNotifier) (a : Answers)
  | lapse (n : ClientDiedNotifier)
  deriving DecidableEq, Repr

/-- The death links that a handler has made: those that are there after it and were not before. -/
def linksMade (s s' : State) : List Link := s'.links.filter fun l => l ∉ s.links

/-- The process once its `powerOn` is answered. -/
def Process.poweredOn (p : Process) (s : State) (o : Outcome) : Process :=
  { p with ones := if o.ret = 1 then p.ones + 1 else p.ones, linked := p.linked ++ linksMade s o.state }

/-- The notices that the death of a process sends off: those of its links that are still there. -/
def Process.dying (p : Process) (s : State) : List ClientDiedNotifier :=
  (p.linked.filter fun l => l ∈ s.links).map Prod.snd

/-- What the daemon is given in an event, if it takes part. -/
def World.given (w : World) : Event → Option (Request × Answers)
  | .start _ => none
  | .powerOn uid pid notifier a => (w.live pid).map fun _ => (.powerOn uid pid notifier, a)
  | .powerOff uid pid a => (w.live pid).map fun _ => (.powerOff uid pid, a)
  | .die _ => none
  | .notice n a => if n ∈ w.notices then some (.binderDied n.mPid, a) else none
  | .lapse _ => none

/-- The daemon after an event. -/
def World.daemonAfter (w : World) (e : Event) : State :=
  match w.given e with
  | none => w.daemon
  | some x => (handle w.daemon x.1 x.2).state

/-- The live processes after an event. -/
def World.liveAfter (w : World) : Event → Pid → Option Process
  | .start pid =>
    match w.live pid with
    | none => Function.update w.live pid (some Process.started)
    | some _ => w.live
  | .powerOn uid pid notifier a =>
    match w.live pid with
    | none => w.live
    | some p => Function.update w.live pid (some (p.poweredOn w.daemon (powerOn w.daemon uid pid notifier a)))
  | .powerOff _ pid _ =>
    match w.live pid with
    | none => w.live
    | some p => Function.update w.live pid (some { p with offs := p.offs + 1 })
  | .die pid => Function.update w.live pid none
  | .notice _ _ => w.live
  | .lapse _ => w.live

/-- The notices in flight after an event. -/
def World.noticesAfter (w : World) : Event → List ClientDiedNotifier
  | .die pid =>
    match w.live pid with
    | none => w.notices
    | some p => w.notices ++ p.dying w.daemon
  | .notice n _ => w.notices.erase n
  | .lapse n => if n ∈ w.daemon.links.map Prod.snd then w.notices else w.notices.erase n
  | _ => w.notices

/-- The daemon with its clients' processes; an event gives the request the daemon was given, its reply and its calls. -/
def world : Machine World Event (Option (Request × Int × List Call)) where
  next w e := { daemon := w.daemonAfter e, live := w.liveAfter e, notices := w.noticesAfter e }
  out w e := (w.given e).map fun x => (x.1, (handle w.daemon x.1 x.2).ret, (handle w.daemon x.1 x.2).calls)

/-- What an event does to the holds. -/
def eventOp (_ : Event) (o : Option (Request × Int × List Call)) : HoldOp Pid :=
  match o with
  | none => .keep
  | some x => holdOp x.1 x.2.1

/-- The daemon with the processes, and the holds that the replies have given out as a history variable. -/
def heldWorld : Machine (World × Holds Pid) Event (Option (Request × Int × List Call)) :=
  world.track fun h e o => h.apply (eventOp e o)

/-- At the start nobody holds the eSE. -/
def heldWorldInit : World × Holds Pid := (World.init, fun _ => 0)

end EseManager
