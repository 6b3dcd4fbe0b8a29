import DvbReceiver.Bytes
import DvbReceiver.Failure

set_option autoImplicit false

namespace DvbReceiver.I2c

structure Message where
  address : Nat
  isRead : Bool
  data : Bytes
  deriving DecidableEq, Repr

def conclude (bus : String) (requested : Nat) : Except Failure Nat → Except Failure Unit
  | .error e => .error e
  | .ok handled =>
    if handled = requested then .ok () else .error (.shortI2cTransfer bus handled requested)

def writeMessages (address : Nat) (data : Bytes) : List Message :=
  [⟨address, false, data⟩]

def readMessages (address : Nat) (register : Bytes) (out : Bytes) : List Message :=
  [⟨address, false, register⟩, ⟨address, true, out⟩]

/-- A device that answers every read with the first byte last written to it in the transfer. -/
structure Echo where
  limit : Option Nat := none
  stuck : Bool := false
  deriving DecidableEq, Repr

namespace Echo

def answer (last : UInt8) : List Message → List Message
  | [] => []
  | m :: rest =>
    if m.isRead then { m with data := List.replicate m.data.length last } :: answer last rest
    else m :: answer (m.data.headD 0) rest

def handled (e : Echo) (messages : List Message) : Nat :=
  match e.limit with
  | none => messages.length
  | some limit => min limit messages.length

def transfer (e : Echo) (bus : String) (messages : List Message) :
    List Message × List Message × Except Failure Unit :=
  let count := e.handled messages
  let answered := answer 0 (messages.take count)
  let result : Except Failure Nat := if e.stuck then .error (.device "bus stuck") else .ok count
  (answered, answered ++ messages.drop count, conclude bus messages.length result)

end Echo

end DvbReceiver.I2c
