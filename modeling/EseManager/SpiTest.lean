import EseManager.DemoClient

/-!
# The test program

`spitest-80t-tee` is the other user of the eSE on the device: it does not ask the power daemon, but takes the eSE for itself through
`/dev/pn553`, runs `teeclientdemo`, and gives the eSE back. What the driver answers is arbitrary. The client dies in the copy of a
response as it does in `demo`, and what it outlives destroys nothing else.

The functions of `80t-test-ap.cpp` that talk to the eSE in frames of their own are in `SpiFrames`. Those that talk to the NFC controller
are called by nothing, and left out; so is what `main` prints.
-/

namespace EseManager

/-- The requests to `/dev/pn553`. -/
inductive Pn553Request where
  | setPowerScheme (scheme : Nat)
  | getPwrStatus
  | setSpiPwr (level : Nat)
  deriving DecidableEq, Repr

/-- What `open` returns, and the five requests in their order. -/
structure Pn553Answers where
  openRet : Int
  setPowerScheme : Int
  getPwrStatus : Int
  spiPrio : Int
  spiPrioEnd : Int
  spiOff : Int

/-- What the program does, in order. -/
inductive SpiTestEvent where
  | openNode (ret : Int)
  | ioctl (fd : Int) (request : Pn553Request) (ret : Int)
  | sleep (seconds : Nat)
  | client (e : DemoEvent)
  | closeNode (fd : Int)
  deriving DecidableEq, Repr

/-- Whether `teeclientdemo` returns. -/
def teeclientdemoReturns (t : TeeAnswers) (halCmd : Mem) (options : List DemoOption) : Bool :=
  let (ret, _) := teeInit t
  if ret = initContextFailed then true
  else if ret = openSessionFailed then true
  else (demo.run (demoStart t halCmd).1 options).isSome

/-- `main`: the status that the process ends with, `none` when it has died, and all that it does. -/
def spiTestMain (n : Pn553Answers) (t : TeeAnswers) (halCmd : Mem) (options : List DemoOption) : Option Int × List SpiTestEvent :=
  let esefp := n.openRet
  if esefp < 0 then
    (some 0, [.openNode n.openRet])
  else
    let events : List SpiTestEvent :=
      [.openNode n.openRet, .ioctl esefp (.setPowerScheme 2) n.setPowerScheme, .ioctl esefp .getPwrStatus n.getPwrStatus,
        .ioctl esefp (.setSpiPwr 3) n.spiPrio, .ioctl esefp (.setSpiPwr 4) n.spiPrioEnd, .sleep 1] ++
        (teeclientdemo t halCmd options).map .client
    if teeclientdemoReturns t halCmd options then
      (some 0, events ++ [.ioctl esefp (.setSpiPwr 0) n.spiOff, .closeNode esefp])
    else
      (none, events)

end EseManager
