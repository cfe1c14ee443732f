import EseManager.PowerManager
import Mathlib.Data.Finset.Basic

/-!
# The descriptors of the daemon

The kernel's side of `nq_node`: the descriptors that the daemon has open on `/dev/p73`, as its calls change them. A successful `open`
adds one. A `close` releases its descriptor whatever it returns.
-/

namespace EseManager

/-- The open descriptors after a call. -/
def fdsAfter (fds : Finset Int) : Call → Finset Int
  | .openNode ret => if 0 ≤ ret then insert ret fds else fds
  | .closeNode fd _ => fds.erase fd
  | _ => fds

/-- The call is on an open descriptor, if it is on one. -/
def UsesOpen (fds : Finset Int) : Call → Prop
  | .ioctl fd _ _ => fd ∈ fds
  | .closeNode fd _ => fd ∈ fds
  | _ => True

instance (fds : Finset Int) (c : Call) : Decidable (UsesOpen fds c) :=
  match c with
  | .ioctl fd _ _ | .closeNode fd _ => inferInstanceAs (Decidable (fd ∈ fds))
  | .openNode _ | .fpGeteSEBindingStatus _ | .linkToDeath .. | .unlinkToDeath .. => inferInstanceAs (Decidable True)

/-- The descriptor table, as calls change it. -/
def fdTable : Machine (Finset Int) Call Unit where
  next := fdsAfter
  out _ _ := ()

/-- The daemon with its descriptor table. -/
def daemonFds : Machine (State × Finset Int) (Request × Answers) (Int × List Call) :=
  daemon.track fun fds _ o => fdTable.run fds o.2

/-- The descriptors that `nq_node` accounts for. -/
def ownFds (node : Int) : Finset Int := if 0 ≤ node then {node} else ∅

end EseManager
