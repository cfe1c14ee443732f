import EseManager.Registrations

/-!
# Client processes

The threads of the client processes, which share the daemon with everybody else. A thread runs the sequence of
`native_eseGetCplc`, `native_eseValidateChipLegality` and `getCplC`, as often as it is called: `powerOn`, and unless that is
negative `ese_getEseCplc`, whose result does not matter for the power, and then `powerOff`.

`sessions` is the daemon with its clients: the requests of the client threads, each at its place in the sequence, and the requests
and death notices of other processes, one at a time and in any order.
-/

namespace EseManager

/-- Where a thread is in the client sequence. -/
inductive Phase where
  | idle
  | powered
  | read
  deriving DecidableEq, Repr

/-- The place after `powerOn`: a negative result ends the sequence. -/
def Phase.afterPowerOn (ret : Int) : Phase := if ret < 0 then .idle else .powered

/-- The daemon, and the place of every thread of every client process. -/
structure Sessions (τ : Type*) where
  daemon : State
  phase : Pid → τ → Phase

/-- A freshly started daemon, with no thread in the sequence. -/
def Sessions.init (τ : Type*) : Sessions τ := { daemon := State.init, phase := fun _ _ => .idle }

/-- A thread is between the reply to its `powerOn` and its `powerOff`. -/
def Sessions.Active {τ : Type*} (s : Sessions τ) (pid : Pid) (thread : τ) : Prop := s.phase pid thread ≠ .idle

/-- What happens next: a client thread makes the next call of its sequence, or the daemon is given something else. -/
inductive Action (τ : Type*) where
  | powerOn (uid : Int) (pid : Pid) (thread : τ) (notifier : Option Binder) (a : Answers)
  | getEseCplc (pid : Pid) (thread : τ)
  | powerOff (uid : Int) (pid : Pid) (thread : τ) (a : Answers)
  | other (r : Request) (a : Answers)

variable {τ : Type*}

/-- What the daemon is given in an action, if it takes part. -/
def Action.request : Action τ → Option (Request × Answers)
  | .powerOn uid pid _ notifier a => some (.powerOn uid pid notifier, a)
  | .getEseCplc _ _ => none
  | .powerOff uid pid _ a => some (.powerOff uid pid, a)
  | .other r a => some (r, a)

/-- The daemon after an action. -/
def Action.daemonAfter (act : Action τ) (s : State) : State :=
  match act.request with
  | none => s
  | some x => daemon.next s x

/-- The reply of the daemon in an action and its calls, if it takes part. -/
def Action.reply (act : Action τ) (s : State) : Option (Int × List Call) := act.request.map (daemon.out s)

/-- The calls of the daemon in an action. -/
def Action.calls (act : Action τ) (s : State) : List Call :=
  match act.reply s with
  | none => []
  | some o => o.2

variable [DecidableEq τ]

/-- A thread goes to a place of the sequence. -/
def setPhase (phase : Pid → τ → Phase) (pid : Pid) (thread : τ) (p : Phase) : Pid → τ → Phase :=
  Function.update phase pid (Function.update (phase pid) thread p)

@[simp] theorem setPhase_self (phase : Pid → τ → Phase) (pid : Pid) (thread : τ) (p : Phase) :
    setPhase phase pid thread p pid thread = p := by
  simp [setPhase]

/-- The other threads stay where they are. -/
theorem setPhase_of_ne (phase : Pid → τ → Phase) {pid q : Pid} {thread u : τ} (p : Phase)
    (h : ¬(q = pid ∧ u = thread)) : setPhase phase pid thread p q u = phase q u := by
  unfold setPhase
  by_cases hq : q = pid
  · subst hq
    have hu : u ≠ thread := fun hu => h ⟨rfl, hu⟩
    simp [hu]
  · simp [hq]

/-- The places of the threads after an action. -/
def phaseAfter (s : Sessions τ) : Action τ → Pid → τ → Phase
  | .powerOn uid pid thread notifier a =>
    setPhase s.phase pid thread (Phase.afterPowerOn (powerOn s.daemon uid pid notifier a).ret)
  | .getEseCplc pid thread => setPhase s.phase pid thread .read
  | .powerOff _ pid thread _ => setPhase s.phase pid thread .idle
  | .other _ _ => s.phase

/-- The daemon and its clients. -/
def sessions : Machine (Sessions τ) (Action τ) (Option (Int × List Call)) where
  next s act := { daemon := act.daemonAfter s.daemon, phase := phaseAfter s act }
  out s act := act.reply s.daemon

/-- An action is in order: a thread of a client process makes the next call of its sequence, and everything else that reaches the
daemon is not from a client process, is not the death of one, and is not `killall`. -/
def InOrder (clients : Pid → Prop) (s : Sessions τ) : Action τ → Prop
  | .powerOn _ pid thread _ _ => clients pid ∧ s.phase pid thread = .idle
  | .getEseCplc pid thread => clients pid ∧ s.phase pid thread = .powered
  | .powerOff _ pid thread _ => clients pid ∧ s.phase pid thread = .read
  | .other (.powerOn _ pid _) _ => ¬clients pid
  | .other (.powerOff _ pid) _ => ¬clients pid
  | .other (.binderDied pid) _ => ¬clients pid
  | .other (.killall _) _ => False
  | .other .getState _ => True
  | .other .geteSEBindingStatus _ => True

/-- What an action does to the holds. -/
def actionOp (act : Action τ) (o : Option (Int × List Call)) : HoldOp Pid :=
  match act.request, o with
  | some x, some y => holdOp x.1 y.1
  | _, _ => .keep

/-- The daemon and its clients, with the holds that the replies have given out as a history variable. -/
def heldSessions : Machine (Sessions τ × Holds Pid) (Action τ) (Option (Int × List Call)) :=
  sessions.track fun h act o => h.apply (actionOp act o)

/-- At the start nobody holds the eSE. -/
def heldInit (τ : Type*) : Sessions τ × Holds Pid := (Sessions.init τ, fun _ => 0)

end EseManager
