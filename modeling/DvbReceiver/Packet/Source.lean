import DvbReceiver.Packet

set_option autoImplicit false

namespace DvbReceiver.Packet

/-- Packets of several PIDs in turn, each PID with a counter of its own. -/
structure Source where
  due : Nat × Nat
  waiting : List (Nat × Nat)
  deriving DecidableEq, Repr

namespace Source

/-- Without any PID there is stuffing. -/
def ofPids : List Nat → Source
  | [] => ⟨(nullPid, 0), []⟩
  | pid :: rest => ⟨(pid, 0), rest.map fun pid => (pid, 0)⟩

def next (s : Source) : Bytes × Source :=
  let (pid, counter) := s.due
  let done := (pid, (counter + 1) % 16)
  let rest := match s.waiting with
    | [] => ⟨done, []⟩
    | due :: waiting => ⟨due, waiting ++ [done]⟩
  (make pid counter, rest)

def take : Nat → Source → Bytes × Source
  | 0, s => ([], s)
  | count + 1, s =>
    let (packet, s) := s.next
    let (rest, s) := take count s
    (packet ++ rest, s)

def fit (s : Source) (room : Nat) : Bytes × Source :=
  s.take (room / size)

theorem length_take (count : Nat) (s : Source) : (s.take count).1.length = count * size := by
  induction count generalizing s with
  | zero => simp [take]
  | succ count ih => simp [take, next, ih, length_make, Nat.succ_mul, Nat.add_comm]

end Source

end DvbReceiver.Packet
