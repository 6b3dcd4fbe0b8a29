import DvbReceiver.Usb.Bus

set_option autoImplicit false

namespace DvbReceiver

/-- Bytes that a list takes up for each buffer in it. -/
def Buffer.entryBytes : Nat := 40

structure Pool where
  outstanding : Nat := 0
  deriving DecidableEq, Repr

namespace Pool

/-- Buffers one by one up to the first refusal, each of them cleared; the second part is what was got
until then. -/
def collect (size : Nat) : Nat → Bus → Bool × List Buffer × Bus
  | 0, b => (true, [], b)
  | count + 1, b =>
    match b.allocate size with
    | (.error _, b) => (false, [], b)
    | (.ok buffer, b) =>
      let (complete, buffers, b) := collect size count b
      (complete, buffer.cleared :: buffers, b)

/-- All the buffers or none. Whatever the bus objected to, the pool reports lack of memory. -/
def allocate (p : Pool) (b : Bus) (count size : Nat) : Except Failure (List Buffer) × Pool × Bus :=
  match collect size count b with
  | (true, buffers, b) => (.ok buffers, { p with outstanding := p.outstanding + count }, b)
  | (false, buffers, b) => (.error (.outOfMemory size), p, b.freeAll buffers)

def request (p : Pool) (b : Bus) (count size : Nat) :
    Except Crash (Except Failure (List Buffer) × Pool × Bus) := do
  reserve count Buffer.entryBytes
  return p.allocate b count size

theorem request_of_room {count : Nat} (room : count * Buffer.entryBytes < addressSpace) (p : Pool)
    (b : Bus) (size : Nat) : p.request b count size = .ok (p.allocate b count size) := by
  rw [request, reserve_eq_ok_iff.2 room]
  rfl

/-- A stream never asks for so many buffers that there is no room for a list of them. -/
theorem request_of_le {count : Nat} (few : count ≤ maxTransfers) (p : Pool) (b : Bus) (size : Nat) :
    p.request b count size = .ok (p.allocate b count size) := by
  refine request_of_room ?_ p b size
  rw [Buffer.entryBytes, addressSpace]
  rw [maxTransfers] at few
  omega

def release (p : Pool) (b : Bus) (buffers : List Buffer) : Pool × Bus :=
  ({ p with outstanding := p.outstanding - buffers.length }, b.freeAll buffers)

end Pool

end DvbReceiver
