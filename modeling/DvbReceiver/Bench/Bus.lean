import DvbReceiver.Usb.Bus

set_option autoImplicit false

namespace DvbReceiver.Bench

structure BusFaults where
  allocation : Option Nat := none
  submission : Option Nat := none
  rejects : Bool := false
  halt : Bool := false
  cancelled : Option Fill := none
  deriving DecidableEq, Repr

def BusFaults.policy (faults : BusFaults) : BusPolicy where
  allocation attempt :=
    if faults.allocation = some attempt then some (.device "injected allocation failure") else none
  submission number :=
    if faults.rejects || faults.submission == some number then some "injected submit failure"
    else none
  halt := if faults.halt then some (.device "injected clear_halt failure") else none
  cancelled _ := faults.cancelled.getD (.result .cancelled 0)
  stride _ := 0x10000

def newBus (speed : Speed) : Bus where
  speed
  policy := BusFaults.policy {}
  nextAddress := 0x20000000

inductive BusStep where
  | failAllocation (n : Option Nat)
  | failSubmission (n : Option Nat)
  | reject (on : Bool)
  | failHalt (on : Bool)
  | cancelAs (result : Option (Status × Nat))
  deriving DecidableEq, Repr

def BusFaults.apply (faults : BusFaults) (bus : Bus) : BusStep → BusFaults
  | .failAllocation n => { faults with allocation := n.map (bus.attempts + ·) }
  | .failSubmission n => { faults with submission := n.map (bus.submissions + ·) }
  | .reject on => { faults with rejects := on }
  | .failHalt on => { faults with halt := on }
  | .cancelAs result =>
    { faults with cancelled := result.map fun (status, actual) => .result status actual }

inductive Selection where
  | position (index : Nat)
  | first (count : Nat)
  | all
  deriving DecidableEq, Repr

def Selection.take (bus : Bus) : Selection → List Urb × Bus
  | .position index => bus.takeAt index
  | .first count => bus.takeFirst count
  | .all => bus.takeFirst bus.queue.length

end DvbReceiver.Bench
