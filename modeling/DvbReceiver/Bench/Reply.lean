import DvbReceiver.Demux
import DvbReceiver.Remote
import DvbReceiver.Usb.Bus
import DvbReceiver.Usb.Product

set_option autoImplicit false

namespace DvbReceiver.Bench

inductive Obstacle where
  | failure (cause : Failure)
  | noDevice
  | noAdapter
  | noFrontend
  | noHandle
  | noDemux
  | noRemote
  | noI2c
  | noBuffer
  | dropped
  | plainDriver
  deriving DecidableEq, Repr

inductive Reply where
  | done
  | count (n : Nat)
  | text (s : String)
  | speed (speed : Speed)
  | urbs (urbs : List Urb)
  | buffer (buffer : Buffer)
  | buffers (buffers : List Buffer)
  | filters (pids : List Nat)
  | drained (matched : Nat) (demux : Demux)
  | identified (identified : Identified)
  | firmwareLoaded (identified : Identified)
  | ready (product : String)
  | keys (keys : List KeyEvent)
  | records (device : Option String) (frontends : List String) (driver : Option String)
  deriving DecidableEq, Repr

abbrev Outcome := Except Obstacle Reply

def Outcome.ofResult : Except Failure Unit → Outcome
  | .ok () => .ok .done
  | .error e => .error (.failure e)

end DvbReceiver.Bench
