import DvbReceiver.Bytes
import DvbReceiver.Failure
import DvbReceiver.Memory

set_option autoImplicit false

namespace DvbReceiver

abbrev BufferSize := { size : Nat // size ≤ maxBufferSize }

structure Buffer where
  address : Nat
  bytes : Bytes
  deriving DecidableEq, Repr

/-- A zeroed buffer that the bus knows by `address`. No size beyond `maxBufferSize` is asked for. -/
def Buffer.allocate (size address : Nat) : Except Failure Buffer :=
  if size = 0 then .error .zeroLengthBuffer
  else if addressSpace ≤ size then .error (.outOfMemory size)
  else .ok ⟨address, List.replicate size 0⟩

def Buffer.cleared (b : Buffer) : Buffer :=
  { b with bytes := List.replicate b.bytes.length 0 }

theorem Buffer.length_cleared (b : Buffer) : b.cleared.bytes.length = b.bytes.length :=
  List.length_replicate

end DvbReceiver
