import DvbReceiver.Demux
import DvbReceiver.Failure

set_option autoImplicit false

namespace DvbReceiver

structure DemuxLimits where
  maxFeeds : Nat
  hardwareFilter : Bool
  deriving DecidableEq, Repr

inductive Registration where
  | adapter (adapter : Nat) (name : String)
  | demux (adapter : Nat) (limits : DemuxLimits)
  | net (adapter : Nat)
  | frontend (adapter slot : Nat) (name : String)
  deriving DecidableEq, Repr

def Registration.place : Registration → Place
  | .adapter a _ => .adapter a
  | .demux a _ => .demux a
  | .net a => .net a
  | .frontend a s _ => .frontend a s

inductive RegistryEvent where
  | registered (what : Registration)
  | unregistered (place : Place)
  deriving DecidableEq, Repr

def RegistryEvent.isRegistration : RegistryEvent → Bool
  | .registered _ => true
  | .unregistered _ => false

structure Registry where
  demuxDepth : Nat
  refused : List Place := []
  /-- The latest event first. -/
  events : List RegistryEvent := []
  demuxes : List Nat := []
  deriving DecidableEq, Repr

namespace Registry

def refuse (r : Registry) (place : Place) : Registry :=
  { r with refused := place :: r.refused }

def register (r : Registry) (what : Registration) : Except Failure Unit × Registry :=
  if r.refused.contains what.place then (.error (.registrationRefused what.place), r)
  else
    let demuxes := match what with
      | .demux a _ => Increasing.insert a r.demuxes
      | _ => r.demuxes
    (.ok (), { r with events := .registered what :: r.events, demuxes })

def newDemux (r : Registry) : Demux :=
  Demux.new r.demuxDepth

def unregister (r : Registry) (place : Place) : Registry :=
  let demuxes := match place with
    | .demux a => r.demuxes.filter (· != a)
    | _ => r.demuxes
  { r with events := .unregistered place :: r.events, demuxes }

/-- No demux is left, and as much has been unregistered as registered. -/
def isClean (r : Registry) : Bool :=
  r.demuxes.isEmpty && r.events.countP (·.isRegistration) * 2 == r.events.length

end Registry

end DvbReceiver
