import DvbReceiver.Proofs.Demux.Chunking

set_option autoImplicit false

namespace DvbReceiver

theorem align_nil : align [] = ⟨[], 0, []⟩ :=
  align_short (by decide)

theorem length_align (data : Bytes) :
    data.length = (align data).skipped + (align data).rest.length +
      Packet.size * (align data).packets.length := by
  induction data using align_induction with
  | short data few => simp [align_short few]
  | skip b tail long other ih =>
    simp only [align_skip long other, List.length_cons]
    omega
  | packet packet rest whole sync ih =>
    simp only [align_packet whole sync, List.length_append, List.length_cons, whole, Nat.mul_add]
    omega

theorem rest_suffix_align (data : Bytes) : (align data).rest <:+ data := by
  induction data using align_induction with
  | short data few => simp [align_short few]
  | skip b tail long other ih =>
    rw [align_skip long other]
    exact ih.trans (List.suffix_cons b tail)
  | packet packet rest whole sync ih =>
    rw [align_packet whole sync]
    exact ih.trans (List.suffix_append packet rest)

theorem PidCount.packets_add (c : PidCount) (packet : Bytes) :
    (c.add packet).packets = c.packets + 1 := by
  unfold add
  split
  next => split <;> rfl
  next => rfl

namespace Reassembly

variable {r : Reassembly} {data : Bytes} {told : Nat}

def packetsOf : List (Nat × PidCount) → Nat
  | [] => 0
  | (_, count) :: rest => count.packets + packetsOf rest

def total (r : Reassembly) : Nat :=
  packetsOf r.pids

theorem packetsOf_countPid (pid : Nat) (packet : Bytes) (pids : List (Nat × PidCount)) :
    packetsOf (countPid pid packet pids) = packetsOf pids + 1 := by
  induction pids with
  | nil => simp [countPid, packetsOf, PidCount.packets_add]
  | cons entry rest ih =>
    unfold countPid
    split
    next => simp [packetsOf, PidCount.packets_add, Nat.add_comm]
    next =>
      split
      next => simp [packetsOf, PidCount.packets_add, Nat.add_right_comm]
      next => simp [packetsOf, ih, Nat.add_assoc]

theorem total_take (r : Reassembly) (packet : Bytes) :
    (r.take packet).2.total = r.total + (r.take packet).1 := by
  unfold take
  split
  next => rfl
  next pid _ =>
    split
    next => exact packetsOf_countPid pid packet r.pids
    next => rfl

theorem take_le (r : Reassembly) (packet : Bytes) : (r.take packet).1 ≤ 1 := by
  unfold take
  split
  next => simp
  next => split <;> simp

theorem total_takeAll (r : Reassembly) (packets : List Bytes) :
    (r.takeAll packets).2.total = r.total + (r.takeAll packets).1 := by
  induction packets generalizing r with
  | nil => rfl
  | cons packet rest ih => simp only [takeAll, ih, total_take, Nat.add_assoc]

theorem takeAll_le (r : Reassembly) (packets : List Bytes) :
    (r.takeAll packets).1 ≤ packets.length := by
  induction packets generalizing r with
  | nil => simp [takeAll]
  | cons packet rest ih =>
    have first := take_le r packet
    have others := ih (r.take packet).2
    simp only [takeAll, List.length_cons]
    omega

theorem skipped_consume (r : Reassembly) (chunk : Bytes) :
    (r.consume chunk).2.skipped = r.skipped + (align (r.carry ++ chunk)).skipped :=
  congrArg (· + (align (r.carry ++ chunk)).skipped) (skipped_takeAll r _)

/-- Taking in `data` piece by piece has come to what aligning it at one go comes to. -/
structure Scanned (data : Bytes) (r : Reassembly) : Prop where
  carry : r.carry = (align data).rest
  skipped : r.skipped = (align data).skipped
  total : r.total ≤ (align data).packets.length

theorem scanned_nil {filters : List Nat} : Scanned [] { filters } := by
  constructor <;> simp [align_nil, total, packetsOf]

theorem Scanned.watch (scanned : Scanned data r) (pid : Nat) (on : Bool) :
    Scanned data (r.watch pid on) :=
  ⟨scanned.carry, scanned.skipped, scanned.total⟩

theorem total_consume (r : Reassembly) (chunk : Bytes) :
    (r.consume chunk).2.total = r.total + (r.consume chunk).1 :=
  total_takeAll ..

theorem Scanned.consume (scanned : Scanned data r) (chunk : Bytes) :
    Scanned (data ++ chunk) (r.consume chunk).2 := by
  have whole := align_append data chunk
  rw [← scanned.carry] at whole
  constructor
  next => exact (congrArg Alignment.rest whole).symm
  next => rw [skipped_consume, scanned.skipped, whole]
  next =>
    rw [total_consume, whole, List.length_append]
    exact Nat.add_le_add scanned.total (takeAll_le r _)

theorem Scanned.consumeAll (scanned : Scanned data r) (chunks : List Bytes) :
    Scanned (data ++ chunks.flatten) (r.consumeAll chunks).2 := by
  induction chunks generalizing r data with
  | nil => simpa [Reassembly.consumeAll] using scanned
  | cons chunk rest ih => simpa [Reassembly.consumeAll] using ih (scanned.consume chunk)

/-- All of `data` has gone into packets, been skipped or been kept for later, and no more packets
are counted than there are, each of them once. -/
structure Conserved (data : Bytes) (told : Nat) (r : Reassembly) : Prop where
  short : r.carry.length < Packet.size
  last : r.carry <:+ data
  balance : ∃ packets, data.length = r.skipped + r.carry.length + Packet.size * packets ∧
    r.total ≤ packets
  told : r.total = told

theorem Scanned.conserved (scanned : Scanned data r) : Conserved data r.total r where
  short := scanned.carry ▸ length_rest_align data
  last := scanned.carry ▸ rest_suffix_align data
  balance := by
    refine ⟨(align data).packets.length, ?_, scanned.total⟩
    rw [scanned.carry, scanned.skipped]
    exact length_align data
  told := rfl

end Reassembly

namespace Demux

/-- What the drains of a run take in, in order: all that is delivered, except for what is dropped
and what is still waiting in the end. -/
def drained (d : Demux) : List Act → Bytes
  | [] => []
  | .deliver chunk :: rest => (d.deliver chunk).drained rest
  | .watch pid on :: rest => (d.watch pid on).drained rest
  | .drain :: rest => d.ring.flatten ++ d.drain.2.drained rest

theorem drained_drain {d : Demux} (acts : List Act) (kept : (d.run acts).2.dropped = d.dropped) :
    d.drained (acts ++ [.drain]) = d.ring.flatten ++ delivered acts := by
  induction acts generalizing d with
  | nil => simp [drained, delivered]
  | cons act rest ih =>
    cases act with
    | deliver chunk =>
      have later := dropped_le_run (d.deliver chunk) rest
      have queued := deliver_kept (kept ▸ later)
      simp only [run, queued] at kept
      simp only [List.cons_append, drained, queued]
      rw [ih (d := { d with ring := d.ring ++ [chunk] }) kept]
      simp [delivered, Act.bytes]
    | watch pid on => exact ih (d := d.watch pid on) kept
    | drain =>
      rw [List.cons_append, drained, ih (d := d.drain.2) kept]
      rfl

variable {d : Demux} {past : Bytes}

theorem scanned_run (scanned : d.state.Scanned past) (acts : List Act) :
    (d.run acts).2.state.Scanned (past ++ d.drained acts) := by
  induction acts generalizing d past with
  | nil => simpa [drained, run] using scanned
  | cons act rest ih =>
    cases act with
    | deliver chunk => exact ih ((state_deliver d chunk).symm ▸ scanned)
    | watch pid on => exact ih (scanned.watch pid on)
    | drain =>
      have later := ih (d := d.drain.2) (scanned.consumeAll d.ring)
      rwa [List.append_assoc] at later

theorem total_drain (d : Demux) : d.drain.2.state.total = d.state.total + d.drain.1 := by
  have counted (chunks : List Bytes) (r : Reassembly) :
      (r.consumeAll chunks).2.total = r.total + (r.consumeAll chunks).1 := by
    induction chunks generalizing r with
    | nil => rfl
    | cons chunk rest ih =>
      simp only [Reassembly.consumeAll, ih, Reassembly.total_consume, Nat.add_assoc]
  exact counted d.ring d.state

theorem total_run (d : Demux) (acts : List Act) :
    (d.run acts).2.state.total = d.state.total + (d.run acts).1 := by
  induction acts generalizing d with
  | nil => rfl
  | cons act rest ih =>
    cases act with
    | deliver chunk => exact (ih _).trans (congrArg (·.total + _) (state_deliver d chunk))
    | watch pid on => exact ih (d.watch pid on)
    | drain => simp only [run, ih, total_drain, Nat.add_assoc]

/-- No byte is lost or used twice: each one drained is part of a packet, has been skipped or is
among the last ones, which are kept for the next chunk. The packets counted are those the drains
told of. -/
theorem conserved_run (depth : Nat) (acts : List Act) :
    Reassembly.Conserved ((new depth).drained acts) ((new depth).run acts).1
      ((new depth).run acts).2.state := by
  have scanned := scanned_run (d := new depth) Reassembly.scanned_nil acts
  have told := total_run (new depth) acts
  have none : (new depth).state.total = 0 := rfl
  rw [none, Nat.zero_add] at told
  exact told ▸ scanned.conserved

end Demux

end DvbReceiver
