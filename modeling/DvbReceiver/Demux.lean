import DvbReceiver.Increasing
import DvbReceiver.Packet

set_option autoImplicit false

namespace DvbReceiver

structure PidCount where
  packets : Nat := 0
  discontinuities : Nat := 0
  last : Option Nat := none
  deriving DecidableEq, Repr

def PidCount.add (c : PidCount) (packet : Bytes) : PidCount :=
  let c := { c with packets := c.packets + 1 }
  if Packet.hasPayload packet then
    match Packet.counter? packet with
    | none => c
    | some counter =>
      let broken := match c.last with
        | none => false
        | some last => counter != (last + 1) % 16
      { c with
        discontinuities := c.discontinuities + if broken then 1 else 0
        last := some counter }
  else c

structure Alignment where
  packets : List Bytes
  skipped : Nat
  rest : Bytes
  deriving DecidableEq, Repr

-- the packets so far in reverse
def alignFrom (packets : List Bytes) (skipped : Nat) (data : Bytes) : Alignment :=
  match data with
  | [] => ⟨packets.reverse, skipped, []⟩
  | b :: tail =>
    -- the same as `length < size`, without walking to the end of the data
    if tail.drop (Packet.size - 2) = [] then ⟨packets.reverse, skipped, b :: tail⟩
    else if b = Packet.syncByte then
      alignFrom ((b :: tail.take (Packet.size - 1)) :: packets) skipped
        (tail.drop (Packet.size - 1))
    else alignFrom packets (skipped + 1) tail
termination_by data.length
decreasing_by all_goals simp +arith [List.length_drop]

/-- Takes a packet wherever a sync byte is met, and steps over any other byte. -/
def align (data : Bytes) : Alignment :=
  alignFrom [] 0 data

theorem alignFrom_eq (packets : List Bytes) (skipped : Nat) (data : Bytes) :
    alignFrom packets skipped data =
      { packets := packets.reverse ++ (align data).packets
        skipped := skipped + (align data).skipped
        rest := (align data).rest } := by
  -- A packet is taken off at one go, so that the induction is on the length.
  induction hn : data.length using Nat.strongRecOn generalizing packets skipped data with
  | ind n ih =>
    cases data with
    | nil => simp [align, alignFrom]
    | cons b tail =>
      unfold align alignFrom
      split
      next => simp
      next =>
        split
        next =>
          have shorter : (tail.drop (Packet.size - 1)).length < n := by
            simp at hn ⊢
            omega
          rw [ih _ shorter _ _ _ rfl, ih _ shorter [_] _ _ rfl]
          simp
        next =>
          have shorter : tail.length < n := by
            simp at hn
            omega
          rw [ih _ shorter _ _ _ rfl, ih _ shorter [] _ _ rfl]
          simp [Nat.add_assoc]

theorem align_short {data : Bytes} (short : data.length < Packet.size) :
    align data = ⟨[], 0, data⟩ := by
  cases data with
  | nil => simp [align, alignFrom]
  | cons b tail =>
    have few : tail.drop (Packet.size - 2) = [] := by
      simp [Packet.size] at short ⊢
      omega
    simp [align, alignFrom, few]

theorem align_skip {b : UInt8} {tail : Bytes} (long : Packet.size ≤ (b :: tail).length)
    (other : b ≠ Packet.syncByte) :
    align (b :: tail) = { align tail with skipped := (align tail).skipped + 1 } := by
  have many : tail.drop (Packet.size - 2) ≠ [] := by
    simp [Packet.size] at long ⊢
    omega
  rw [align, alignFrom, if_neg many, if_neg other, alignFrom_eq]
  simp [Nat.add_comm]

theorem align_packet {packet rest : Bytes} (whole : packet.length = Packet.size)
    (sync : packet.head? = some Packet.syncByte) :
    align (packet ++ rest) = { align rest with packets := packet :: (align rest).packets } := by
  cases packet with
  | nil => simp at sync
  | cons b tail =>
    simp only [List.head?_cons, Option.some.injEq] at sync
    simp only [List.length_cons] at whole
    have length : tail.length = Packet.size - 1 := by omega
    have many : (tail ++ rest).drop (Packet.size - 2) ≠ [] := by
      simp [Packet.size] at length ⊢
      omega
    rw [List.cons_append, align, alignFrom, if_neg many, if_pos sync, alignFrom_eq]
    simp [← length]

structure Reassembly where
  carry : Bytes := []
  filters : List Nat := []
  pids : List (Nat × PidCount) := []
  skipped : Nat := 0
  deriving DecidableEq, Repr

namespace Reassembly

def watch (r : Reassembly) (pid : Nat) (on : Bool) : Reassembly :=
  { r with filters := if on then Increasing.insert pid r.filters else r.filters.filter (· != pid) }

def countPid (pid : Nat) (packet : Bytes) : List (Nat × PidCount) → List (Nat × PidCount)
  | [] => [(pid, PidCount.add {} packet)]
  | (p, c) :: rest => if pid < p then (pid, PidCount.add {} packet) :: (p, c) :: rest
    else if pid = p then (p, c.add packet) :: rest
    else (p, c) :: countPid pid packet rest

def take (r : Reassembly) (packet : Bytes) : Nat × Reassembly :=
  match Packet.pid? packet with
  | none => (0, r)
  | some pid =>
    if r.filters.contains pid then (1, { r with pids := countPid pid packet r.pids }) else (0, r)

def takeAll (r : Reassembly) : List Bytes → Nat × Reassembly
  | [] => (0, r)
  | packet :: rest =>
    let (first, r) := r.take packet
    let (others, r) := takeAll r rest
    (first + others, r)

def consume (r : Reassembly) (chunk : Bytes) : Nat × Reassembly :=
  let a := align (r.carry ++ chunk)
  let (matched, r) := r.takeAll a.packets
  (matched, { r with carry := a.rest, skipped := r.skipped + a.skipped })

def consumeAll (r : Reassembly) : List Bytes → Nat × Reassembly
  | [] => (0, r)
  | chunk :: rest =>
    let (first, r) := r.consume chunk
    let (others, r) := consumeAll r rest
    (first + others, r)

def packets (r : Reassembly) (pid : Nat) : Nat :=
  ((r.pids.find? (·.1 == pid)).map (·.2.packets)).getD 0

end Reassembly

/-- Chunks wait in a bounded ring until they are drained; a chunk that finds it full is dropped. -/
structure Demux where
  capacity : Nat
  ring : List Bytes := []
  dropped : Nat := 0
  state : Reassembly := {}
  deriving DecidableEq, Repr

namespace Demux

def defaultDepth : Nat := 256

def new (depth : Nat) : Demux :=
  { capacity := max depth 1 }

def deliver (d : Demux) (chunk : Bytes) : Demux :=
  if d.ring.length < d.capacity then { d with ring := d.ring ++ [chunk] }
  else { d with dropped := d.dropped + 1 }

def watch (d : Demux) (pid : Nat) (on : Bool) : Demux :=
  { d with state := d.state.watch pid on }

def drain (d : Demux) : Nat × Demux :=
  let (matched, state) := d.state.consumeAll d.ring
  (matched, { d with ring := [], state })

end Demux

end DvbReceiver
