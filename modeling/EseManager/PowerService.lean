import EseManager.PowerRpc

/-!
# The power daemon behind its stub

`powerService` is `daemon` as its clients reach it: a call goes through the proxy of its method, the parcels and the stub to the
handler, and its value comes back the same way. Without `eSEClient_Debug` the stub has no case for `killall`. The death notices come
from Binder itself.

`esepmclient` is the client for the command line.
-/

namespace EseManager

open Ipc

/-- The request of a client that calls a method. -/
def PowerMethod.asked (uid : Int) (pid : Pid) : PowerMethod → Request
  | .powerOn notifier => .powerOn uid pid notifier
  | .powerOff => .powerOff uid pid
  | .getState => .getState
  | .killall => .killall uid
  | .geteSEBindingStatus => .geteSEBindingStatus

/-- What the methods return in a state, as an `int32_t`. -/
def methodsIn (s : State) (uid : Int) (pid : Pid) (a : Answers) (m : PowerMethod) : Int32 :=
  Int32.ofInt (handle s (m.asked uid pid) a).ret

/-- What reaches the process of the daemon: a call of a method, by a client with this uid and pid, or a death notice. -/
inductive ServiceInput where
  | call (uid : Int) (pid : Pid) (m : PowerMethod)
  | notice (mPid : Pid)
  deriving DecidableEq, Repr

/-- The call of a method through its proxy. -/
def callMethod (debug : Bool) (mem : Allocator) (base : BBinder Binder) (s : State) (uid : Int) (pid : Pid) (m : PowerMethod)
    (a : Answers) : PowerReturned :=
  m.proxy (powerOnTransact debug mem (methodsIn s uid pid a) base)

/-- The methods that the stub has called, one after another. -/
def handleAll (uid : Int) (pid : Pid) (a : Answers) : State → List PowerMethod → State × List Call
  | s, [] => (s, [])
  | s, m :: ms =>
    let o := handle s (m.asked uid pid) a
    let (s, calls) := handleAll uid pid a o.state ms
    (s, o.calls ++ calls)

/-- The daemon with its stub; an input gives the value that the client gets (zero for a notice), and the calls of the daemon. -/
def powerService (debug : Bool) (mem : Allocator) (base : BBinder Binder) : Machine State (ServiceInput × Answers) (Int × List Call) where
  next s x :=
    match x.1 with
    | .call uid pid m => (handleAll uid pid x.2 s (callMethod debug mem base s uid pid m x.2).calls).1
    | .notice mPid => (binderDied s mPid x.2).state
  out s x :=
    match x.1 with
    | .call uid pid m =>
      let r := callMethod debug mem base s uid pid m x.2
      (r.value, (handleAll uid pid x.2 s r.calls).2)
    | .notice mPid => (noError, (binderDied s mPid x.2).calls)

/-- The methods that `main` of `esepmclient` calls, by its arguments behind the name of the program; `cb` is its callback. After a
`poweron` it waits for a line, and it ends then. -/
def esepmclientMain (cb : Binder) (args : List String) : List PowerMethod :=
  match args with
  | [] => [.powerOn (some cb), .powerOff]
  | arg :: _ =>
    if arg = "poweron" then
      [.powerOn (some cb)]
    else if arg = "poweroff" then
      [.powerOff]
    else if arg = "killall" then
      [.killall]
    else if arg = "getstate" then
      [.getState]
    else
      [.powerOn (some cb), .powerOff]

end EseManager
