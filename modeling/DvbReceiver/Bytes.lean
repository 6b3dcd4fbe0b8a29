import DvbReceiver.Memory

set_option autoImplicit false

namespace DvbReceiver

abbrev Bytes := List UInt8

namespace Bytes

def slice (data : Bytes) (start stop : Nat) : Bytes :=
  (data.drop start).take (stop - start)

/-- Lays `src` over `data` from `offset` on; what would reach past the end is dropped. -/
def overwrite (data : Bytes) (offset : Nat) (src : Bytes) : Bytes :=
  let fits := src.take (data.length - offset)
  data.take offset ++ fits ++ data.drop (offset + fits.length)

theorem length_slice (data : Bytes) (start stop : Nat) :
    (slice data start stop).length = min (stop - start) (data.length - start) := by
  simp [slice]

theorem length_overwrite (data : Bytes) (offset : Nat) (src : Bytes) :
    (overwrite data offset src).length = data.length := by
  simp only [overwrite, List.length_append, List.length_take, List.length_drop]
  omega

end Bytes

end DvbReceiver
