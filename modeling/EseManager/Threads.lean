import EseManager.Lib.LastOut
import EseManager.Registrations
import EseManager.ReleaseRaces
import Mathlib.Tactic.Simps.Basic

/-!
# The threads of the daemon

Binder serves requests and delivers death notices on the threads of a pool. The requests take the mutex of `onTransact`; the notices
do not. So at any time at most one request is being served, and any number of notices with it, in any order of their accesses.

Only `powerOff` and the notices go access by access, as `Release.powerOff` and `Release.binderDied` cut them up. Every other request
(`powerOn`, `getState`, `killall`, the binding status) is one step: it is left out that a notice makes an access while one of them is
handled. What a notice does to a `powerOn` then is in `race`.

An entry that is erased is gone for every iterator at it, that of the `powerOff` underway and those of all notices, and the callback
in it is taken to go with it.
-/

namespace EseManager

/-- What the threads share, the pid and the place of the last `powerOff`, and the places of the notices. -/
structure Threads (τ : Type*) where
  daemon : State
  word : BitVec 32
  pid : Pid
  off : OffPlace
  died : τ → DiedPlace

/-- What a thread does next. -/
inductive Access (τ : Type*) where
  /-- A request takes the mutex. -/
  | request (r : Request)
  /-- The next access of the `powerOff` that has the mutex. -/
  | powerOff
  /-- The next access of a notice. -/
  | notice (t : τ)
  deriving DecidableEq, Repr

/-- `powerOff` has returned. -/
def OffPlace.isReturned : OffPlace → Bool
  | .returned _ => true
  | _ => false

/-- The notice prints the map, and its iterator is at an entry. -/
def DiedPlace.isPrinting : DiedPlace → Bool
  | .walk (.entry _) => true
  | _ => false

/-- The place of a notice once a request has made the map `m'` of `m`. No request erases an entry and enters it again. -/
def DiedPlace.remapped (m m' : PidsMap) : DiedPlace → DiedPlace
  | .walk (.entry pid) => if pid ∈ m ∧ pid ∉ m' then .walk .dangling else .walk (.entry pid)
  | o => o

namespace Threads

variable {τ : Type*}

/-- No thread has done anything yet. -/
def start (s : State) (word : BitVec 32) : Threads τ :=
  { daemon := s, word := word, pid := 0, off := .returned 0, died := fun _ => .erase }

/-- The `powerOff` next to a notice that is at this place. -/
@[simps]
def release (s : Threads τ) (place : DiedPlace) : Release :=
  { daemon := s.daemon, word := s.word, off := s.off, died := place }

/-- The handlers of the `powerOff` underway and of a notice of this pid. -/
def releasers (s : Threads τ) (mPid : Pid) (a : Answers) : Releasers :=
  { mPid := mPid, pid := s.pid, answers := a, lastRef := true }

/-- What an access has left of what they share. -/
@[simps]
def put (s : Threads τ) (r : Release) : Threads τ := { s with daemon := r.daemon, word := r.word, off := r.off }

/-- The notices once somebody else has erased a pid. -/
def erased (s : Threads τ) (pid : Pid) : τ → DiedPlace := fun t => (s.died t).erased pid

/-- The other requests, served without an access of a notice in between. -/
def served (s : Threads τ) (r : Request) (a : Answers) : Threads τ :=
  let p := plant.next { daemon := s.daemon, word := s.word } (r, a)
  { s with daemon := p.daemon, word := p.word, died := fun t => (s.died t).remapped s.daemon.pidsMap p.daemon.pidsMap }

/-- A request that has got the mutex. -/
def accept (s : Threads τ) (r : Request) (a : Answers) : Threads τ :=
  match r with
  | .powerOff uid pid => if uidAllowed uid = true then { s with pid := pid, off := .count } else s
  -- notices do not take the mutex
  | .binderDied _ => s
  | r => s.served r a

/-- What a request that has got the mutex does to the holds at once; an authorised `powerOff` releases its hold when it returns. -/
def acceptOp (s : Threads τ) (r : Request) (a : Answers) : HoldOp Pid :=
  match r with
  | .powerOff _ _ => .keep
  | .binderDied _ => .keep
  | r => holdOp r (plant.out { daemon := s.daemon, word := s.word } (r, a)).1

end Threads

variable {τ : Type*} [DecidableEq τ]

/-- The daemon with its threads; `mPid` is the pid of a notice. It gives out what a step does to the holds of the clients. -/
def threads (mPid : τ → Pid) : Machine (Threads τ) (Access τ × Answers) (HoldOp Pid) where
  next s x :=
    match x.1 with
    | .request r => if s.off.isReturned = true then s.accept r x.2 else s
    | .powerOff =>
      let r := (s.release .done).powerOff (s.releasers s.pid x.2)
      { s.put r with died := if s.off = .erase then s.erased s.pid else s.died }
    | .notice t =>
      let r := (s.release (s.died t)).binderDied (s.releasers (mPid t) x.2)
      let died := if s.off ≠ .crashed ∧ s.died t = .erase then s.erased (mPid t) else s.died
      { s.put r with died := Function.update died t r.died }
  out s x :=
    match x.1 with
    | .request r => if s.off.isReturned = true then s.acceptOp r x.2 else .keep
    | .powerOff =>
      let r := (s.release .done).powerOff (s.releasers s.pid x.2)
      if s.off.isReturned = false ∧ r.off.isReturned = true then .release s.pid else .keep
    | .notice t => if s.off ≠ .crashed ∧ s.died t = .erase then .cancel (mPid t) else .keep

/-- The daemon with its threads and, as a history variable, the holds of the clients. -/
def heldThreads (mPid : τ → Pid) : Machine (Threads τ × Holds Pid) (Access τ × Answers) (HoldOp Pid) :=
  (threads mPid).track fun h _ op => h.apply op

/-- A notice has found the map empty, and has not switched the eSE off yet. -/
def DiedPlace.FoundEmpty (o : DiedPlace) : Prop := o = .testNode ∨ o = .switchOff

instance (o : DiedPlace) : Decidable o.FoundEmpty := inferInstanceAs (Decidable (_ ∨ _))

/-- The step keeps out of the way of others: a `powerOn` is not served while a notice that has found the map empty has not switched
the eSE off, a notice does not erase the caller of the `powerOff` that has the mutex, and nobody erases an entry that somebody who
prints the map is at. -/
def Apart (mPid : τ → Pid) (s : Threads τ) (x : Access τ × Answers) : Prop :=
  match x.1 with
  | .request (.powerOn _ _ _) => ∀ t, ¬(s.died t).FoundEmpty
  | .request (.killall uid) => uidAllowed uid = true → ∀ t, (s.died t).isPrinting = false
  | .powerOff => s.off = .erase → ∀ t, s.died t ≠ .walk (.entry s.pid)
  | .notice t =>
    s.died t = .erase → (s.off.isReturned = false → mPid t ≠ s.pid) ∧ s.off ≠ .walk (.entry (mPid t)) ∧
      ∀ u, s.died u ≠ .walk (.entry (mPid t))
  | _ => True

instance [Fintype τ] (mPid : τ → Pid) (s : Threads τ) : (x : Access τ × Answers) → Decidable (Apart mPid s x)
  | (.request (.powerOn _ _ _), _) => inferInstanceAs (Decidable (∀ _, ¬_))
  | (.request (.powerOff _ _), _) => isTrue trivial
  | (.request .getState, _) => isTrue trivial
  | (.request (.killall _), _) => inferInstanceAs (Decidable (_ → ∀ _, _ = _))
  | (.request .geteSEBindingStatus, _) => isTrue trivial
  | (.request (.binderDied _), _) => isTrue trivial
  | (.powerOff, _) => inferInstanceAs (Decidable (_ → ∀ _, _ ≠ _))
  | (.notice _, _) => inferInstanceAs (Decidable (_ → (_ → _ ≠ _) ∧ _ ≠ _ ∧ ∀ _, _ ≠ _))

/-- No request is being served, and no notice is underway. -/
def Threads.Quiet (s : Threads τ) : Prop :=
  s.off.isReturned = true ∧ ∀ t, s.died t = .erase ∨ s.died t = .done

instance [Fintype τ] (s : Threads τ) : Decidable s.Quiet := inferInstanceAs (Decidable (_ ∧ ∀ _, _ ∨ _))

end EseManager
