import DvbReceiver.Proofs.Demux.Conservation

set_option autoImplicit false

namespace DvbReceiver

/-- The packets that `align` finds, with their places in a stream of which `start` bytes come before
the data. -/
def located (start : Nat) (data : Bytes) : List (Nat × Bytes) :=
  if data.length < Packet.size then []
  else if data.head? = some Packet.syncByte then
    (start, data.take Packet.size) :: located (start + Packet.size) (data.drop Packet.size)
  else located (start + 1) data.tail
termination_by data.length
decreasing_by
  all_goals
    simp [Packet.size] at *
    omega

theorem located_short {start : Nat} {data : Bytes} (short : data.length < Packet.size) :
    located start data = [] := by
  rw [located, if_pos short]

theorem located_skip {start : Nat} {b : UInt8} {tail : Bytes}
    (long : Packet.size ≤ (b :: tail).length) (other : b ≠ Packet.syncByte) :
    located start (b :: tail) = located (start + 1) tail := by
  have head : (b :: tail).head? ≠ some Packet.syncByte := by simpa using other
  rw [located, if_neg (Nat.not_lt.2 long), if_neg head, List.tail_cons]

theorem located_packet {start : Nat} {packet rest : Bytes} (whole : packet.length = Packet.size)
    (sync : packet.head? = some Packet.syncByte) :
    located start (packet ++ rest) = (start, packet) :: located (start + Packet.size) rest := by
  have long : ¬ (packet ++ rest).length < Packet.size := by simp [whole]
  have head : (packet ++ rest).head? = some Packet.syncByte := by simp [sync]
  rw [located, if_neg long, if_pos head, ← whole, List.take_left, List.drop_left]

theorem map_snd_located (start : Nat) (data : Bytes) :
    (located start data).map Prod.snd = (align data).packets := by
  induction data using align_induction generalizing start with
  | short data few => simp [located_short few, align_short few]
  | skip b tail long other ih => rw [located_skip long other, align_skip long other, ih]
  | packet packet rest whole sync ih =>
    rw [located_packet whole sync, align_packet whole sync, List.map_cons, ih]

theorem located_append (start : Nat) (first second : Bytes) :
    located start (first ++ second) = located start first ++
      located (start + (first.length - (align first).rest.length))
        ((align first).rest ++ second) := by
  induction first using align_induction generalizing start with
  | short first few => simp [located_short few, align_short few]
  | skip b tail long other ih =>
    have longer : Packet.size ≤ (b :: (tail ++ second)).length := by
      simp at long ⊢
      omega
    have kept := (rest_suffix_align tail).length_le
    have place : start + 1 + (tail.length - (align tail).rest.length) =
        start + ((b :: tail).length - (align tail).rest.length) := by
      rw [List.length_cons]
      omega
    rw [List.cons_append, located_skip longer other, located_skip long other,
      align_skip long other, ih, place]
  | packet packet rest whole sync ih =>
    have kept := (rest_suffix_align rest).length_le
    have place : start + Packet.size + (rest.length - (align rest).rest.length) =
        start + ((packet ++ rest).length - (align rest).rest.length) := by
      rw [List.length_append, whole]
      omega
    rw [List.append_assoc, located_packet whole sync, located_packet whole sync,
      align_packet whole sync, ih, place, List.cons_append]

namespace Reassembly

variable {r : Reassembly} {past : Bytes}

def found (r : Reassembly) (seen : Nat) : List Bytes → List (Nat × Bytes)
  | [] => []
  | chunk :: rest =>
    located (seen - r.carry.length) (r.carry ++ chunk) ++
      (r.consume chunk).2.found (seen + chunk.length) rest

theorem Scanned.located_found (scanned : Scanned past r) (chunks : List Bytes) :
    located 0 past ++ r.found past.length chunks = located 0 (past ++ chunks.flatten) := by
  induction chunks generalizing r past with
  | nil => simp [found]
  | cons chunk rest ih =>
    have whole := located_append 0 past chunk
    rw [← scanned.carry, Nat.zero_add] at whole
    have later := ih (scanned.consume chunk)
    rw [List.length_append, List.append_assoc] at later
    rw [found, ← List.append_assoc, ← whole, List.flatten_cons]
    exact later

end Reassembly

namespace Demux

variable {d : Demux} {past : Bytes}

/-- The packets that the drains of a run find, whatever their PID, with their places in what is
drained; `seen` bytes have been drained before. -/
def found (d : Demux) (seen : Nat) : List Act → List (Nat × Bytes)
  | [] => []
  | .deliver chunk :: rest => (d.deliver chunk).found seen rest
  | .watch pid on :: rest => (d.watch pid on).found seen rest
  | .drain :: rest =>
    d.state.found seen d.ring ++ d.drain.2.found (seen + d.ring.flatten.length) rest

theorem located_found (scanned : d.state.Scanned past) (acts : List Act) :
    located 0 past ++ d.found past.length acts = located 0 (past ++ d.drained acts) := by
  induction acts generalizing d past with
  | nil => simp [found, drained]
  | cons act rest ih =>
    cases act with
    | deliver chunk => exact ih ((state_deliver d chunk).symm ▸ scanned)
    | watch pid on => exact ih (d := d.watch pid on) (scanned.watch pid on)
    | drain =>
      have same := scanned.located_found d.ring
      have later := ih (d := d.drain.2) (scanned.consumeAll d.ring)
      rw [List.length_append, List.append_assoc] at later
      rw [found, ← List.append_assoc, same]
      exact later

end Demux

end DvbReceiver
