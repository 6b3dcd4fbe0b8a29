import DvbReceiver.Text.Record

set_option autoImplicit false

namespace DvbReceiver.Simulation

inductive Fault where
  | powerOn
  | streamingOn
  | pidFilterControl
  | attach (adapter slot : Nat)
  | noFrontend (adapter slot : Nat)
  | firmware
  deriving DecidableEq, Repr

namespace Fault

def record : Fault → String
  | .powerOn => "PowerOn"
  | .streamingOn => "StreamingOn"
  | .pidFilterControl => "PidFilterCtrl"
  | .attach a s => Record.applied "AttachError" [toString a, toString s]
  | .noFrontend a s => Record.applied "NoFrontend" [toString a, toString s]
  | .firmware => "Firmware"

def rank : Fault → Nat × Nat × Nat
  | .powerOn => (0, 0, 0)
  | .streamingOn => (1, 0, 0)
  | .pidFilterControl => (2, 0, 0)
  | .attach a s => (3, a, s)
  | .noFrontend a s => (4, a, s)
  | .firmware => (5, 0, 0)

def precedes (f g : Fault) : Bool :=
  let (k, a, s) := f.rank
  let (k', a', s') := g.rank
  k < k' || k == k' && (a < a' || a == a' && s < s')

def insert (f : Fault) : List Fault → List Fault
  | [] => [f]
  | g :: rest =>
    if f.precedes g then f :: g :: rest
    else if f = g then g :: rest
    else g :: insert f rest

end Fault

end DvbReceiver.Simulation
