import EseManager.Basic
import EseManager.Lib.Machine
import Std.Data.ExtTreeMap

/-!
# The power daemon

`eSEPowerManager`: a map from client pids to a thread count and a death link, a device node opened when first needed, and the
handlers `powerOn`, `powerOff`, `getState`, `killall` and `ClientDiedNotifier::binderDied`.

What the world answers during one handler (the fingerprint CA, the device node, Binder) is its `Answers`; no handler makes the
same kind of call twice on one path, so one answer for each kind is all a handler can see. What the handler asks of the world
is the list of its `Call`s, each with the answer it got. A handler gives the next state, the reply and the calls.

The log lines of the source are left out, but for the one that has an effect: the argument of the message for a refused
`powerOn` calls `getState`, which may open the device node.
-/

namespace EseManager

/-! ## The P61 status word -/

/-- `P61_STATE_SPI`: the eSE is accessed by SPI, its SPI power is on. -/
def p61StateSpi : BitVec 32 := 0x0400#32

/-- `P61_STATE_DWNLD`: an NFCC firmware download is in progress. -/
def p61StateDwnld : BitVec 32 := 0x0800#32

/-- `P61_STATE_SPI_PRIO`: an access by SPI on priority has started. -/
def p61StateSpiPrio : BitVec 32 := 0x1000#32

/-- The test `word & mask`. -/
def has (word mask : BitVec 32) : Bool := word &&& mask != 0#32

/-- The requests of the device node. -/
inductive Ioctl where
  | getSpmStatus
  | setPowerScheme (scheme : Nat)
  | setSpmPwr (level : Nat)
  deriving DecidableEq, Repr

/-! ## Clients -/

/-- The identity of a callback binder. -/
abbrev Binder := Nat

/-- A death notifier of the daemon: the object (its address) and the pid it was made for. -/
structure ClientDiedNotifier where
  addr : Nat
  mPid : Pid
  deriving DecidableEq, Repr

/-- `service_data`: the callback, the notifier linked on it, and the number of holds of the process. -/
structure ServiceData where
  lServiceCb : Option Binder
  lDeathNotifier : Option ClientDiedNotifier
  clientThreadCount : Int32
  deriving DecidableEq, Repr

/-- `std::map<uint32_t, struct service_data>`. -/
abbrev PidsMap := Std.ExtTreeMap Pid ServiceData

/-! ## State, answers, calls -/

/-- A death link: a callback, and the notifier that is told when the process behind it dies. -/
abbrev Link := Binder × ClientDiedNotifier

/-- The state of the daemon: its members, the static of `isPowerOnAllowed`, the number of notifiers made so far (so that a new
one is a new object), and the death links Binder has of it. Binder refers to a notifier weakly: a link tells of a death only as long
as an entry of the map stores its notifier, and is left out once none does. -/
structure State where
  nqNode : Int
  pidsMap : PidsMap
  isFirstCalled : Bool
  allocs : Nat
  links : List Link

/-- A daemon that has just been started. -/
def State.init : State :=
  { nqNode := -1, pidsMap := ∅, isFirstCalled := true, allocs := 0, links := [] }

/-- What the world answers during one handler. `openFd` is `none` when `open` fails; a negative `Ret` is a failed ioctl; any
`closeRet` or `linkRet` but zero is a failure. `word` is the P61 status word of the device when the handler runs. -/
structure Answers where
  bindStatus : Int
  openFd : Option Nat
  statusRet : Int
  word : BitVec 32
  schemeRet : Int
  pwrOnRet : Int
  pwrOffRet : Int
  closeRet : Int
  linkRet : Int
  deriving DecidableEq, Repr

/-- A call of a handler, with its result. -/
inductive Call where
  | fpGeteSEBindingStatus (ret : Int)
  | openNode (ret : Int)
  | ioctl (fd : Int) (req : Ioctl) (ret : Int)
  | closeNode (fd : Int) (ret : Int)
  | linkToDeath (cb : Binder) (n : ClientDiedNotifier) (ret : Int)
  | unlinkToDeath (cb : Binder) (n : ClientDiedNotifier)
  deriving DecidableEq, Repr

/-- The calls that switch the power of the eSE: `P61_SET_POWER_SCHEME` and `P61_SET_SPM_PWR`. -/
def Call.isPower : Call → Bool
  | .ioctl _ (.setPowerScheme _) _ => true
  | .ioctl _ (.setSpmPwr _) _ => true
  | _ => false

/-- `P61_SET_SPM_PWR 0`. -/
def Call.isPowerOff : Call → Bool
  | .ioctl _ (.setSpmPwr 0) _ => true
  | _ => false

/-- What a handler gives: the next state, the reply, and its calls in order. -/
structure Outcome where
  state : State
  ret : Int
  calls : List Call

/-- An outcome after earlier calls. -/
def Outcome.after (calls : List Call) (o : Outcome) : Outcome := { o with calls := calls ++ o.calls }

/-! ## The gates -/

/-- `ESE_BINDING_RIGHT`. -/
def eseBindingRight : Int := 0

/-- `ESE_NO_BINDING_RELATION`, a new eSE. -/
def eseNoBindingRelation : Int := 1

/-- `geteSEBindingStatus`: the status the fingerprint CA gives. -/
def geteSEBindingStatus (a : Answers) : Int := a.bindStatus

/-- `isPowerOnAllowed`: the first call ever is allowed, every later one only with an acceptable binding status. -/
def isPowerOnAllowed (s : State) (a : Answers) : Bool × State × List Call :=
  if s.isFirstCalled = true then
    (true, { s with isFirstCalled := false }, [])
  else
    let status := geteSEBindingStatus a
    if status ≠ eseBindingRight ∧ status ≠ eseNoBindingRelation then
      (false, s, [.fpGeteSEBindingStatus status])
    else
      (true, s, [.fpGeteSEBindingStatus status])

/-- The uid test of the power requests: system, root and radio pass. -/
def uidAllowed (uid : Int) : Bool :=
  appUid uid == systemUid || appUid uid == rootUid || appUid uid == radioUid

/-! ## The device node -/

/-- What `open` returns. -/
def openRet (a : Answers) : Int :=
  match a.openFd with
  | none => -1
  | some fd => fd

/-- Open the device node if it is not open. -/
def openNode (s : State) (a : Answers) : State × List Call :=
  if s.nqNode < 0 then
    ({ s with nqNode := openRet a }, [.openNode (openRet a)])
  else
    (s, [])

/-- Close the device node; a failed close keeps the descriptor. -/
def closeNode (s : State) (a : Answers) : State × List Call :=
  if a.closeRet ≠ 0 then
    (s, [.closeNode s.nqNode a.closeRet])
  else
    ({ s with nqNode := -1 }, [.closeNode s.nqNode a.closeRet])

/-- `ese_current_state` after the status query: a failed query leaves the initial value, -1. -/
def eseCurrentState (a : Answers) : BitVec 32 := if a.statusRet < 0 then -1#32 else a.word

/-- The status query of the device. -/
def statusCall (s : State) (a : Answers) : Call := .ioctl s.nqNode .getSpmStatus a.statusRet

/-- `getState`: the status word, or -1. -/
def getState (s : State) (a : Answers) : Outcome :=
  let (s, opened) := openNode s a
  if s.nqNode < 0 then
    ⟨s, s.nqNode, opened⟩
  else
    ⟨s, (eseCurrentState a).toInt, opened ++ [statusCall s a]⟩

/-! ## powerOn -/

/-- Switch the eSE on if the status word shows it off: the value `powerOn` returns early with, if it does, and the calls. -/
def switchOn (s : State) (word : BitVec 32) (a : Answers) : Option Int × List Call :=
  if has word (p61StateSpi ||| p61StateSpiPrio) then
    (none, [])
  else if has word p61StateDwnld then
    (some (-ebusy), [])
  else if a.schemeRet < 0 then
    (some a.schemeRet, [.ioctl s.nqNode (.setPowerScheme 2) a.schemeRet])
  else if a.pwrOnRet < 0 then
    (some a.pwrOnRet,
      [.ioctl s.nqNode (.setPowerScheme 2) a.schemeRet, .ioctl s.nqNode (.setSpmPwr 1) a.pwrOnRet])
  else
    (none, [.ioctl s.nqNode (.setPowerScheme 2) a.schemeRet, .ioctl s.nqNode (.setSpmPwr 1) a.pwrOnRet])

/-- `powerOn` without a notifier: the eSE is switched off again if nobody uses it, and the node closed. -/
def undoPowerOn (s : State) (a : Answers) : Outcome :=
  if s.pidsMap.isEmpty then
    if a.pwrOffRet < 0 then
      ⟨s, a.pwrOffRet, [.ioctl s.nqNode (.setSpmPwr 0) a.pwrOffRet]⟩
    else
      let (s', closed) := closeNode s a
      ⟨s', -1, .ioctl s.nqNode (.setSpmPwr 0) a.pwrOffRet :: closed⟩
  else
    ⟨s, -1, []⟩

/-- Enter a pid in the map with one hold, or count one more hold of it. The data of a pid already there is kept. -/
def PidsMap.addHold (m : PidsMap) (pid : Pid) (data : ServiceData) : PidsMap :=
  match m[pid]? with
  | none => m.insert pid { data with clientThreadCount := 1 }
  | some d => m.insert pid { d with clientThreadCount := d.clientThreadCount + 1 }

/-- The notifier the next `new ClientDiedNotifier` makes for a pid. -/
def newNotifier (s : State) (pid : Pid) : ClientDiedNotifier := { addr := s.allocs, mPid := pid }

/-- The death links once a pid is registered with a notifier of this link. Only a new entry stores it; the entry of a pid that is
there already keeps its own, and the new notifier goes with the local it is in. -/
def linksWith (s : State) (pid : Pid) (l : Link) : List Link :=
  match s.pidsMap[pid]? with
  | none => s.links ++ [l]
  | some _ => s.links

/-- The end of `powerOn`: make a notifier, link it on the callback, register the caller. -/
def register (s : State) (pid : Pid) (notifier : Option Binder) (a : Answers) : Outcome :=
  let n := newNotifier s pid
  let s := { s with allocs := s.allocs + 1 }
  match notifier with
  | none => undoPowerOn s a
  | some cb =>
    if a.linkRet ≠ noError then
      ⟨s, -1, [.linkToDeath cb n a.linkRet]⟩
    else
      let data : ServiceData := { lServiceCb := some cb, lDeathNotifier := some n, clientThreadCount := 0 }
      ⟨{ s with pidsMap := s.pidsMap.addHold pid data, links := linksWith s pid (cb, n) }, 1,
        [.linkToDeath cb n a.linkRet]⟩

/-- `powerOn` from the status query on, with the node open. -/
def powerOnNode (s : State) (pid : Pid) (notifier : Option Binder) (a : Answers) : Outcome :=
  if a.statusRet < 0 then
    ⟨s, a.statusRet, [statusCall s a]⟩
  else
    match switchOn s (eseCurrentState a) a with
    | (some ret, switched) => ⟨s, ret, statusCall s a :: switched⟩
    | (none, switched) => (register s pid notifier a).after (statusCall s a :: switched)

/-- `powerOn`. -/
def powerOn (s : State) (uid : Int) (pid : Pid) (notifier : Option Binder) (a : Answers) : Outcome :=
  match isPowerOnAllowed s a with
  | (false, s, asked) =>
    -- the argument of the log line
    let o := getState s a
    ⟨o.state, permissionDenied, asked ++ o.calls⟩
  | (true, s, asked) =>
    if uidAllowed uid = false then
      ⟨s, permissionDenied, asked⟩
    else
      let (s, opened) := openNode s a
      if s.nqNode < 0 then
        ⟨s, s.nqNode, asked ++ opened⟩
      else
        (powerOnNode s pid notifier a).after (asked ++ opened)

/-! ## powerOff and killall -/

/-- Switch the eSE off, unless the status word shows a firmware download, and close the node. `done` is the reply after that. -/
def switchOff (s : State) (a : Answers) (done : Int) : Outcome :=
  if has (eseCurrentState a) p61StateDwnld then
    ⟨s, -ebusy, [statusCall s a]⟩
  else if a.pwrOffRet < 0 then
    ⟨s, a.pwrOffRet, [statusCall s a, .ioctl s.nqNode (.setSpmPwr 0) a.pwrOffRet]⟩
  else
    let (s', closed) := closeNode s a
    ⟨s', done, statusCall s a :: .ioctl s.nqNode (.setSpmPwr 0) a.pwrOffRet :: closed⟩

/-- The death link of an entry, if it has one to unlink. -/
def ServiceData.link? (d : ServiceData) : Option Link :=
  match d.lServiceCb, d.lDeathNotifier with
  | some cb, some n => some (cb, n)
  | _, _ => none

/-- The death links once the link of an entry is taken away. -/
def linksWithout (s : State) (d : ServiceData) : List Link :=
  match d.link? with
  | some l => s.links.erase l
  | none => s.links

/-- Unlink the stored notifier of an entry. -/
def unlink (s : State) (d : ServiceData) : State × List Call :=
  match d.link? with
  | some (cb, n) => ({ s with links := s.links.erase (cb, n) }, [.unlinkToDeath cb n])
  | none => (s, [])

/-- `powerOff`. -/
def powerOff (s : State) (uid : Int) (pid : Pid) (a : Answers) : Outcome :=
  if uidAllowed uid = false then
    ⟨s, permissionDenied, []⟩
  else
    match s.pidsMap[pid]? with
    | none => ⟨s, -1, []⟩
    | some d =>
      let (s, unlinked) := unlink s d
      let d := { d with clientThreadCount := d.clientThreadCount - 1 }
      if d.clientThreadCount > 0 then
        ⟨{ s with pidsMap := s.pidsMap.insert pid d }, 1, unlinked⟩
      else
        let s := { s with pidsMap := s.pidsMap.erase pid }
        if s.pidsMap.isEmpty = false then
          ⟨s, 1, unlinked⟩
        else if s.nqNode < 0 then
          ⟨s, 0, unlinked⟩
        else
          (switchOff s a 0).after unlinked

/-- Unlink the stored notifiers of all entries, in the order of the pids. -/
def unlinkAll (s : State) : State × List Call :=
  s.pidsMap.toList.foldl (fun (acc : State × List Call) e =>
    let (s, unlinked) := unlink acc.1 e.2
    (s, acc.2 ++ unlinked)) (s, [])

/-- `killall`. -/
def killall (s : State) (uid : Int) (a : Answers) : Outcome :=
  if uidAllowed uid = false then
    ⟨s, permissionDenied, []⟩
  else
    let (s, unlinked) := unlinkAll s
    -- no notifier is stored any longer
    let s := { s with pidsMap := ∅, links := [] }
    let (s, opened) := openNode s a
    if s.nqNode < 0 then
      ⟨s, s.nqNode, unlinked ++ opened⟩
    else
      (switchOff s a a.pwrOffRet).after (unlinked ++ opened)

/-! ## Death of a client -/

/-- The state once the registration of a pid is erased, and with it the notifier that it stores. -/
def State.unregister (s : State) (pid : Pid) : State :=
  { s with
    pidsMap := s.pidsMap.erase pid
    links := (s.pidsMap[pid]?.map (linksWithout s)).getD s.links }

@[simp] theorem State.unregister_pidsMap (s : State) (pid : Pid) : (s.unregister pid).pidsMap = s.pidsMap.erase pid := rfl
@[simp] theorem State.unregister_nqNode (s : State) (pid : Pid) : (s.unregister pid).nqNode = s.nqNode := rfl
@[simp] theorem State.unregister_allocs (s : State) (pid : Pid) : (s.unregister pid).allocs = s.allocs := rfl

/-- `ClientDiedNotifier::binderDied`: the registration of the pid goes, and the eSE is switched off if it was the last. Nothing
is replied; the node stays open. -/
def binderDied (s : State) (mPid : Pid) (a : Answers) : Outcome :=
  let s := s.unregister mPid
  if s.pidsMap.isEmpty = false then
    ⟨s, noError, []⟩
  else if s.nqNode < 0 then
    ⟨s, noError, []⟩
  else
    ⟨s, noError, [.ioctl s.nqNode (.setSpmPwr 0) a.pwrOffRet]⟩

/-! ## The daemon as a machine -/

/-- What reaches the daemon: a request, with its caller, or a death notice. -/
inductive Request where
  | powerOn (uid : Int) (pid : Pid) (notifier : Option Binder)
  | powerOff (uid : Int) (pid : Pid)
  | getState
  | killall (uid : Int)
  | geteSEBindingStatus
  | binderDied (mPid : Pid)
  deriving DecidableEq, Repr

/-- One request or notice, handled atomically. -/
def handle (s : State) (r : Request) (a : Answers) : Outcome :=
  match r with
  | .powerOn uid pid notifier => powerOn s uid pid notifier a
  | .powerOff uid pid => powerOff s uid pid a
  | .getState => getState s a
  | .killall uid => killall s uid a
  | .geteSEBindingStatus => ⟨s, geteSEBindingStatus a, [.fpGeteSEBindingStatus a.bindStatus]⟩
  | .binderDied mPid => binderDied s mPid a

@[simp] theorem handle_powerOn (s : State) (uid : Int) (pid : Pid) (notifier : Option Binder) (a : Answers) :
    handle s (.powerOn uid pid notifier) a = powerOn s uid pid notifier a := rfl

@[simp] theorem handle_powerOff (s : State) (uid : Int) (pid : Pid) (a : Answers) :
    handle s (.powerOff uid pid) a = powerOff s uid pid a := rfl

@[simp] theorem handle_getState (s : State) (a : Answers) : handle s .getState a = getState s a := rfl

@[simp] theorem handle_killall (s : State) (uid : Int) (a : Answers) : handle s (.killall uid) a = killall s uid a := rfl

@[simp] theorem handle_binderDied (s : State) (mPid : Pid) (a : Answers) :
    handle s (.binderDied mPid) a = binderDied s mPid a := rfl

/-- The daemon: it is given requests with the answers of the world to them, and gives replies and calls. -/
def daemon : Machine State (Request × Answers) (Int × List Call) where
  next s x := (handle s x.1 x.2).state
  out s x := ((handle s x.1 x.2).ret, (handle s x.1 x.2).calls)

@[simp] theorem daemon_next (s : State) (x : Request × Answers) : daemon.next s x = (handle s x.1 x.2).state := rfl

@[simp] theorem daemon_out (s : State) (x : Request × Answers) :
    daemon.out s x = ((handle s x.1 x.2).ret, (handle s x.1 x.2).calls) := rfl

end EseManager
