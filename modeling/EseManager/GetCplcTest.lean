import EseManager.Clients
import EseManager.Device

/-!
# The stress test of the client sequence

`getCplcTest` starts `thread_count` threads; when one cannot be created it exits at once, and the threads with it. Each thread runs
`getCplC` a million times, unless the process is interrupted: `powerOn`, and unless that is negative `ese_getEseCplc` and then
`powerOff`. When all threads are joined, the process asks for the state of the eSE once more and ends.

`cplcTest` is that process, over the daemon and its device and next to everything else that reaches the daemon, one call at a time
and in any order. A thread looks at its count and at `g_quit` in a step of its own: an interrupt may come between this test and the
`powerOn` after it. The threads are numbered as in `tinfo`.
-/

namespace EseManager

/-- The `thread_count` of `main`: 3 without an argument, else what `atoi` reads in it, at most 100. -/
def threadsOfMain (atoi : Option Int) : Int :=
  match atoi with
  | none => 3
  | some n => if n > 100 then 100 else n

/-- The process: its pid and uid, and its `thread_count`. -/
structure CplcTest where
  pid : Pid
  uid : Int
  threadCount : Nat

/-- The process that `main` makes of its argument; with a negative `thread_count` its loops start nothing. -/
def CplcTest.ofMain (pid : Pid) (uid : Int) (atoi : Option Int) : CplcTest := ⟨pid, uid, (threadsOfMain atoi).toNat⟩

/-- The daemon with the threads, the status word of the device, the threads that have been created, whether `main` has given up over
one that has not, the iterations that each thread has left (`count` of its `thread_info`), the threads that have passed the test of their
loop and not called yet, and `g_quit`. -/
structure TestRun where
  sessions : Sessions Nat
  word : BitVec 32
  created : Nat
  exited : Bool
  count : Nat → Nat
  entered : Nat → Bool
  gQuit : Bool

/-- A freshly started daemon and a process without threads, over a device that shows `word`. -/
def TestRun.start (word : BitVec 32) : TestRun :=
  { sessions := Sessions.init Nat, word := word, created := 0, exited := false, count := fun _ => 1000000, entered := fun _ => false,
    gQuit := false }

/-- What happens next: `main` creates a thread, or fails to; a thread tests whether to go on; it makes its next call, with a new callback
in case that is a `powerOn`; the process is interrupted; or the daemon is given something else. -/
inductive TestStep where
  | create (ok : Bool)
  | test (i : Nat)
  | call (i : Nat) (cb : Binder) (a : Answers)
  | sigint
  | other (r : Request) (a : Answers)
  deriving DecidableEq, Repr

namespace CplcTest

variable (c : CplcTest)

/-- `main` has a thread to create. -/
def creates (t : TestRun) : Bool := !t.exited && t.created < c.threadCount

/-- The thread has been created, and not gone with the process. -/
def alive (t : TestRun) (i : Nat) : Bool := !t.exited && i < t.created

/-- The thread is at the test of its loop, and passes it. -/
def passes (t : TestRun) (i : Nat) : Bool :=
  alive t i && t.sessions.phase c.pid i = .idle && !t.entered i && t.count i ≠ 0 && !t.gQuit

/-- The next call of a thread, if it has one. -/
def nextCall (t : TestRun) (i : Nat) (cb : Binder) (a : Answers) : Option (Action Nat) :=
  if alive t i = false then none
  else
    match t.sessions.phase c.pid i with
    | .idle => if t.entered i = true then some (.powerOn c.uid c.pid i (some cb) a) else none
    | .powered => some (.getEseCplc c.pid i)
    | .read => some (.powerOff c.uid c.pid i a)

/-- What the daemon and the threads see of a step. The daemon reads the word of the device. -/
def action (t : TestRun) : TestStep → Option (Action Nat)
  | .create _ => none
  | .test _ => none
  | .call i cb a => c.nextCall t i cb { a with word := t.word }
  | .sigint => none
  | .other r a => some (.other r { a with word := t.word })

/-- The thread whose `getCplC` a call ends: one whose `powerOn` has failed, or that has powered off. -/
def ended (s : State) : Action Nat → Option Nat
  | .powerOn uid pid i notifier a => if (powerOn s uid pid notifier a).ret < 0 then some i else none
  | .getEseCplc _ _ => none
  | .powerOff _ _ i _ => some i
  | .other _ _ => none

/-- The iterations left, once a thread has ended one. -/
def countAfter (t : TestRun) (act : Action Nat) : Nat → Nat :=
  match ended t.sessions.daemon act with
  | none => t.count
  | some i => Function.update t.count i (t.count i - 1)

/-- The threads past the test of their loop, once one of them has called. -/
def enteredAfter (t : TestRun) : Action Nat → Nat → Bool
  | .powerOn _ _ i _ _ => Function.update t.entered i false
  | _ => t.entered

/-- The process after a step that calls. -/
def after (t : TestRun) (act : Action Nat) : TestRun :=
  { t with
    sessions := EseManager.sessions.next t.sessions act
    word := wordAfterAll t.word (act.calls t.sessions.daemon)
    count := countAfter t act
    entered := enteredAfter t act }

/-- The process after a step that does not call. -/
def silent (t : TestRun) : TestStep → TestRun
  | .create ok =>
    if c.creates t = true then
      if ok = true then { t with created := t.created + 1 } else { t with exited := true }
    else
      t
  | .test i => if c.passes t i = true then { t with entered := Function.update t.entered i true } else t
  | .sigint => { t with gQuit := true }
  | .call _ _ _ => t
  | .other _ _ => t

end CplcTest

/-- The process next to everything else; a step gives the action it is, if it calls, and the reply of the daemon. -/
def cplcTest (c : CplcTest) : Machine TestRun TestStep (Option (Action Nat × Option (Int × List Call))) where
  next t step :=
    match c.action t step with
    | some act => CplcTest.after t act
    | none => c.silent t step
  out t step := (c.action t step).map fun act => (act, act.reply t.sessions.daemon)

/-- The process with the holds that the replies have given out, as a history variable. -/
def heldTest (c : CplcTest) : Machine (TestRun × Holds Pid) TestStep (Option (Action Nat × Option (Int × List Call))) :=
  (cplcTest c).track fun h _ o => h.apply (match o with
    | none => .keep
    | some x => actionOp x.1 x.2)

/-- At the start nobody holds the eSE. -/
def heldTestStart (word : BitVec 32) : TestRun × Holds Pid := (TestRun.start word, fun _ => 0)

namespace CplcTest

variable (c : CplcTest)

/-- The thread is between the reply to its `powerOn` and its `powerOff`. -/
def Running (t : TestRun) (i : Nat) : Prop := t.sessions.phase c.pid i ≠ .idle

instance (t : TestRun) (i : Nat) : Decidable (c.Running t i) := by
  unfold Running
  infer_instance

/-- The running threads. -/
def running (t : TestRun) : Finset Nat := (Finset.range c.threadCount).filter (c.Running t)

/-- Every thread has been created and can be joined: it is at the test of its loop and finds its count used up or `g_quit` set. -/
def Joined (t : TestRun) : Prop :=
  t.created = c.threadCount ∧
    ∀ i < c.threadCount, ¬c.Running t i ∧ t.entered i = false ∧ (t.count i = 0 ∨ t.gQuit = true)

/-- Nothing of the process can go on: `main` has no thread to create, no thread passes its test, and none has a call to make. -/
def Stopped (t : TestRun) : Prop :=
  c.creates t = false ∧ ∀ i, c.passes t i = false ∧ ∀ cb a, c.nextCall t i cb a = none

/-- A step of the others is none of the process itself, is not its death, and is not `killall`. -/
def Spares : TestStep → Prop
  | .create _ => True
  | .test _ => True
  | .call _ _ _ => True
  | .sigint => True
  | .other (.powerOn _ pid _) _ => pid ≠ c.pid
  | .other (.powerOff _ pid) _ => pid ≠ c.pid
  | .other (.binderDied pid) _ => pid ≠ c.pid
  | .other (.killall _) _ => False
  | .other .getState _ => True
  | .other .geteSEBindingStatus _ => True

end CplcTest

/-- All calls to the device and to Binder succeed. -/
def TestStep.Succeeds : TestStep → Prop
  | .create _ => True
  | .test _ => True
  | .call _ _ a => a.Succeeds
  | .sigint => True
  | .other _ a => a.Succeeds

end EseManager
