import EseManager.Lib.Machine

/-!
# The cached proxy of a service

`libesepm` and `libesemanager` each keep the proxy of their daemon in a global variable and look it up when the variable is empty:
`getEsePMServiceClient` and `getEseManagerServiceClient` are the same function for two services. A death recipient clears the
variable when the daemon dies.

The daemon, the kernel and the client take their steps in any order. Every start of the daemon is an instance of its own. A death link
is there from the `linkToDeath` that succeeds until its notice is delivered, which happens at most once, at any time after the death.
-/

namespace EseManager

/-- An instance of the daemon, by the number of those before it. -/
abbrev Instance := Nat

/-- Where the client is. -/
inductive Place where
  /-- between calls -/
  | outside
  /-- in the lookup, the variable having been empty -/
  | looking
  /-- the service manager has given a binder -/
  | linking (i : Instance)
  /-- about to store the proxy -/
  | storing (proxy : Option Instance)
  /-- about to return the variable from the lookup; it may have been cleared before the test for null or after it -/
  | stored
  /-- back in the function that was called, about to store what the lookup has returned -/
  | storingBack (proxy : Option Instance)
  /-- about to use the proxy, or to give up if there is none -/
  | calling
  deriving DecidableEq, Repr

/-- A step of the daemon (`publish`, `die`), of the kernel (`notice`) or of the client. -/
inductive ProxyStep where
  | publish (name : String)
  | die (name : String)
  | notice (i : Instance)
  | call
  | getService (binder : Option Instance)
  | linkToDeath (ok : Bool)
  | store
  | returnProxy
  | storeBack
  | finish
  deriving DecidableEq, Repr

/-- The daemon (how many instances there have been, and whether the last of them is up), the death links of the client, its variable
and its place. -/
structure ProxyState where
  started : Nat
  up : Bool
  links : List Instance
  proxy : Option Instance
  place : Place
  deriving DecidableEq, Repr

namespace ProxyState

def init : ProxyState := { started := 0, up := false, links := [], proxy := none, place := .outside }

/-- The instance is alive. -/
def Alive (s : ProxyState) (i : Instance) : Prop := s.up = true ∧ i + 1 = s.started

instance (s : ProxyState) (i : Instance) : Decidable (s.Alive i) := inferInstanceAs (Decidable (_ ∧ _))

/-- The notice of the death of the instance is on its way to the client. -/
def Pending (s : ProxyState) (i : Instance) : Prop := i ∈ s.links ∧ ¬s.Alive i

instance (s : ProxyState) (i : Instance) : Decidable (s.Pending i) := inferInstanceAs (Decidable (_ ∧ _))

/-- A step of the client. A step that is not the next one in its code does nothing. -/
def client (s : ProxyState) (e : ProxyStep) : ProxyState :=
  match s.place, e with
  | .outside, .call => { s with place := if s.proxy = none then .looking else .calling }
  | .looking, .getService none => { s with place := .storing none }
  | .looking, .getService (some i) => if i < s.started then { s with place := .linking i } else s
  -- the result of `linkToDeath` is ignored
  | .linking i, .linkToDeath ok => { s with links := if ok = true then i :: s.links else s.links, place := .storing (some i) }
  | .storing proxy, .store => { s with proxy := proxy, place := .stored }
  | .stored, .returnProxy => { s with place := .storingBack s.proxy }
  | .storingBack proxy, .storeBack => { s with proxy := proxy, place := .calling }
  | .calling, .finish => { s with place := .outside }
  | _, _ => s

end ProxyState

/-- A client of the service of this name. -/
def serviceClient (name : String) : Machine ProxyState ProxyStep Unit where
  next s e :=
    match e with
    | .publish n => if n = name ∧ s.up = false then { s with started := s.started + 1, up := true } else s
    | .die n => if n = name then { s with up := false } else s
    | .notice i => if s.Pending i then { s with links := s.links.erase i, proxy := none } else s
    | e => s.client e
  out _ _ := ()

/-- `getEsePMServiceClient` and the functions of `libesepm`. -/
def esePMServiceClient : Machine ProxyState ProxyStep Unit := serviceClient "eSEPowerManagerService"

/-- `getEseManagerServiceClient` and the functions of `libesemanager`. -/
def eseManagerServiceClient : Machine ProxyState ProxyStep Unit := serviceClient "eseManagerService"

end EseManager
