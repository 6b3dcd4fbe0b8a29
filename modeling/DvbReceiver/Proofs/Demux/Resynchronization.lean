import DvbReceiver.Proofs.Demux.Counting
import DvbReceiver.Proofs.Demux.Places

set_option autoImplicit false

namespace DvbReceiver

namespace Packet

/-- A packet in which nothing but its first byte looks like the start of one. -/
structure Clean (packet : Bytes) : Prop where
  whole : packet.length = size
  sync : packet.head? = some syncByte
  once : syncByte ∉ packet.tail

theorem clean_make {pid : Nat} (low : pid % 256 ≠ 0x47) (counter : Nat) :
    Clean (make pid counter) where
  whole := length_make pid counter
  sync := rfl
  once := by
    have apart {n : Nat} (small : n < 256) (other : n ≠ 0x47) : syncByte ≠ UInt8.ofNat n := by
      intro same
      have value : syncByte.toNat = (UInt8.ofNat n).toNat := congrArg UInt8.toNat same
      rw [UInt8.toNat_ofNat', Nat.mod_eq_of_lt small] at value
      exact other value.symm
    have high : syncByte ≠ UInt8.ofNat (pid / 256 % 32) := apart (by omega) (by omega)
    have low : syncByte ≠ UInt8.ofNat (pid % 256) := apart (by omega) low
    have flags : syncByte ≠ UInt8.ofNat (16 + counter % 16) := apart (by omega) (by omega)
    have stuffing : syncByte ≠ 0xFF := by decide
    simp only [make, List.cons_append, List.nil_append, List.tail_cons, List.mem_cons,
      List.mem_replicate, high, low, flags, stuffing, and_false, or_self, not_false_eq_true]

def written (sent : List (Nat × Nat)) : List Bytes :=
  sent.map fun (pid, counter) => make pid counter

def placed (start : Nat) : List Bytes → List (Nat × Bytes)
  | [] => []
  | packet :: rest => (start, packet) :: placed (start + size) rest

theorem map_snd_placed (start : Nat) (packets : List Bytes) :
    (placed start packets).map Prod.snd = packets := by
  induction packets generalizing start with
  | nil => rfl
  | cons packet rest ih => rw [placed, List.map_cons, ih]

theorem filter_written (sent : List (Nat × Nat)) (pid : Nat) :
    (written sent).filter (pid? · == some pid) = written (sent.filter (·.1 % 8192 == pid)) := by
  have carried (p : Nat × Nat) : (pid? (make p.1 p.2) == some pid) = (p.1 % 8192 == pid) := by
    have here := pid?_make p.1 p.2 []
    rw [List.append_nil] at here
    simp [here]
  simp [written, List.filter_map, Function.comp_def, carried]

end Packet

theorem PidCount.ofPackets_written (sent : List (Nat × Nat)) :
    ofPackets (Packet.written sent) =
      let counters := sent.map (·.2 % 16)
      { packets := counters.length
        discontinuities := Packet.breaks counters
        last := counters.getLast? } := by
  have carrying : (Packet.written sent).filter (Packet.hasPayload ·) = Packet.written sent := by
    refine List.filter_eq_self.2 fun packet written => ?_
    obtain ⟨p, -, rfl⟩ := List.mem_map.1 written
    simpa using Packet.hasPayload_make p.1 p.2 []
  have counters : Packet.counters (Packet.written sent) = sent.map (·.2 % 16) := by
    have counter (p : Nat × Nat) : Packet.counter? (Packet.make p.1 p.2) = some (p.2 % 16) := by
      simpa using Packet.counter?_make p.1 p.2 []
    simp [Packet.counters, Packet.written, List.filterMap_map, counter]
  simp only [ofPackets, carrying, counters]
  simp [Packet.written]

open Packet (Clean placed)

variable {packets : List Bytes}

theorem located_packets (clean : ∀ p ∈ packets, Clean p) (start : Nat) :
    located start packets.flatten = placed start packets ∧
      align packets.flatten = ⟨packets, 0, []⟩ := by
  refine ⟨?_, align_packets packets fun p listed => ⟨(clean p listed).whole, (clean p listed).sync⟩⟩
  induction packets generalizing start with
  | nil => exact located_short (by decide)
  | cons p rest ih =>
    obtain ⟨first, others⟩ := List.forall_mem_cons.1 clean
    rw [List.flatten_cons, located_packet first.whole first.sync, ih others, placed]

theorem size_le_flatten (clean : ∀ p ∈ packets, Clean p) (more : packets ≠ []) :
    Packet.size ≤ packets.flatten.length := by
  obtain ⟨p, rest, rfl⟩ := List.exists_cons_of_ne_nil more
  simp [(clean p List.mem_cons_self).whole]

/-- As long as a packet is to come, garbage without a sync byte is stepped over, and no more. -/
theorem located_quiet (clean : ∀ p ∈ packets, Clean p) (more : packets ≠ []) {garbage : Bytes}
    (quiet : Packet.syncByte ∉ garbage) (start : Nat) :
    located start (garbage ++ packets.flatten) = placed (start + garbage.length) packets ∧
      align (garbage ++ packets.flatten) = ⟨packets, garbage.length, []⟩ := by
  induction garbage generalizing start with
  | nil => exact located_packets clean start
  | cons b rest ih =>
    obtain ⟨other, quiet⟩ := List.ne_and_not_mem_of_not_mem_cons quiet
    have long : Packet.size ≤ (b :: (rest ++ packets.flatten)).length := by
      have some := size_le_flatten clean more
      simp only [List.length_cons, List.length_append]
      omega
    obtain ⟨places, same⟩ := ih quiet (start + 1)
    rw [List.cons_append, located_skip long other.symm, align_skip long other.symm, places, same,
      List.length_cons, Nat.add_assoc, Nat.add_comm 1]
    exact ⟨rfl, rfl⟩

/-- What comes of `packets` after some garbage: the last packets found are all of them or all but
the first, from `stop` on, where the garbage ends. -/
structure Resumed (stop : Nat) (packets : List Bytes) (found : List (Nat × Bytes)) (rest : Bytes) :
    Prop where
  last : ∃ earlier lost, lost ≤ 1 ∧
    found = earlier ++ placed (stop + Packet.size * lost) (packets.drop lost)
  rest : 2 ≤ packets.length → rest = []

theorem Resumed.cons {stop : Nat} {found : List (Nat × Bytes)} {rest : Bytes}
    (resumed : Resumed stop packets found rest) (first : Nat × Bytes) :
    Resumed stop packets (first :: found) rest := by
  obtain ⟨⟨earlier, lost, one, rfl⟩, rest⟩ := resumed
  exact ⟨⟨first :: earlier, lost, one, rfl⟩, rest⟩

theorem Resumed.skip {b : UInt8} {garbage : Bytes} {start : Nat} (other : b ≠ Packet.syncByte)
    (long : Packet.size ≤ (b :: (garbage ++ packets.flatten)).length)
    (later : Resumed (start + 1 + garbage.length) packets
      (located (start + 1) (garbage ++ packets.flatten))
      (align (garbage ++ packets.flatten)).rest) :
    Resumed (start + (b :: garbage).length) packets
      (located start (b :: garbage ++ packets.flatten))
      (align (b :: garbage ++ packets.flatten)).rest := by
  rw [List.cons_append, located_skip long other, align_skip long other, List.length_cons,
    ← Nat.add_assoc, Nat.add_right_comm]
  exact later

theorem resumed_overlap {garbage : Bytes} (few : garbage.length < Packet.size)
    (sync : garbage.head? = some Packet.syncByte) (clean : ∀ p ∈ packets, Clean p)
    (more : packets ≠ []) (start : Nat) :
    Resumed (start + garbage.length) packets (located start (garbage ++ packets.flatten))
      (align (garbage ++ packets.flatten)).rest := by
  cases packets with
  | nil => exact absurd rfl more
  | cons p later =>
    obtain ⟨first, others⟩ := List.forall_mem_cons.1 clean
    -- What looks like a packet reaches into the first one by `cut` bytes and takes it along. The
    -- remainder has no sync byte, so that the next packet is found where it begins.
    let cut := Packet.size - garbage.length
    have positive : 0 < cut := Nat.sub_pos_of_lt few
    have whole : (garbage ++ p.take cut).length = Packet.size := by
      simp only [List.length_append, List.length_take, first.whole, cut]
      omega
    have head : (garbage ++ p.take cut).head? = some Packet.syncByte := by simp [sync]
    have split : garbage ++ (p :: later).flatten =
        (garbage ++ p.take cut) ++ (p.drop cut ++ later.flatten) := by
      simp [← List.append_assoc (p.take cut)]
    have quiet : Packet.syncByte ∉ p.drop cut := by
      have tail : p.drop cut = p.tail.drop (cut - 1) := by
        rw [List.drop_tail, Nat.sub_add_cancel positive]
      rw [tail]
      exact fun inside => first.once (List.mem_of_mem_drop inside)
    have length : (p.drop cut).length = garbage.length := by
      simp only [List.length_drop, first.whole, cut]
      omega
    rw [split, located_packet whole head, align_packet whole head]
    by_cases more : later = []
    next =>
      subst more
      have short : (p.drop cut ++ [].flatten).length < Packet.size := by simpa [length] using few
      rw [located_short short]
      exact ⟨⟨[(start, garbage ++ p.take cut)], 1, Nat.le_refl 1, rfl⟩, by simp⟩
    next =>
      obtain ⟨places, aligned⟩ := located_quiet others more quiet (start + Packet.size)
      have stop : start + Packet.size + garbage.length =
          start + garbage.length + Packet.size * 1 := by omega
      rw [places, aligned, length, stop]
      exact ⟨⟨[(start, garbage ++ p.take cut)], 1, Nat.le_refl 1, rfl⟩, fun _ => rfl⟩

theorem resumed_short {garbage : Bytes} (few : garbage.length < Packet.size)
    (clean : ∀ p ∈ packets, Clean p) (more : packets ≠ []) (start : Nat) :
    Resumed (start + garbage.length) packets (located start (garbage ++ packets.flatten))
      (align (garbage ++ packets.flatten)).rest := by
  induction garbage generalizing start with
  | nil =>
    obtain ⟨places, aligned⟩ := located_packets clean start
    rw [List.nil_append, places, aligned]
    exact ⟨⟨[], 0, by simp, by simp⟩, fun _ => rfl⟩
  | cons b rest ih =>
    by_cases sync : b = Packet.syncByte
    next => exact resumed_overlap few (by simp [sync]) clean more start
    next =>
      have fewer : rest.length < Packet.size := Nat.lt_of_succ_lt few
      have long : Packet.size ≤ (b :: (rest ++ packets.flatten)).length := by
        have some := size_le_flatten clean more
        simp only [List.length_cons, List.length_append]
        omega
      exact (ih fewer (start + 1)).skip sync long

theorem resumed_located (clean : ∀ p ∈ packets, Clean p) (garbage : Bytes) (start : Nat) :
    Resumed (start + garbage.length) packets (located start (garbage ++ packets.flatten))
      (align (garbage ++ packets.flatten)).rest := by
  by_cases more : packets = []
  next =>
    subst more
    exact ⟨⟨located start (garbage ++ [].flatten), 0, by simp, by simp [placed]⟩, by simp⟩
  -- Only garbage that is shorter than a packet can reach into one: the induction takes whole ones
  -- from it until that is left.
  induction garbage using align_induction generalizing start with
  | short garbage few => exact resumed_short few clean more start
  | skip b tail long other ih =>
    have longer : Packet.size ≤ (b :: (tail ++ packets.flatten)).length := by
      simp at long ⊢
      omega
    exact (ih (start + 1)).skip other longer
  | packet packet rest whole sync ih =>
    have later := ih (start + Packet.size)
    rw [List.append_assoc, located_packet whole sync, align_packet whole sync, List.length_append,
      whole, ← Nat.add_assoc]
    exact later.cons (start, packet)

theorem Resumed.countP_le {stop : Nat} {sent : List (Nat × Nat)} {found : List (Nat × Bytes)}
    {rest : Bytes} (resumed : Resumed stop (Packet.written sent) found rest) (pid : Nat) :
    sent.tail.countP (·.1 % 8192 == pid) ≤
      ((found.map Prod.snd).filter (Packet.pid? · == some pid)).length := by
  obtain ⟨earlier, lost, one, rfl⟩ := resumed.last
  have kept : (Packet.written sent).drop lost = Packet.written (sent.drop lost) :=
    List.map_drop.symm
  -- The ones that were found may well start with the first.
  have fewer : (sent.drop 1).Sublist (sent.drop lost) :=
    (List.drop_suffix_drop_left sent one).sublist
  have counted := fewer.countP_le (p := (·.1 % 8192 == pid))
  rw [List.countP_eq_length_filter (l := sent.drop lost)] at counted
  rw [List.map_append, Packet.map_snd_placed, kept, List.filter_append, Packet.filter_written,
    List.length_append, Packet.written, List.length_map, ← List.drop_one]
  exact Nat.le_trans counted (Nat.le_add_left ..)

namespace Demux

variable {depth : Nat} {watched : List Nat} {garbage : Bytes} {sent : List (Nat × Nat)}
  {acts : List Act}

structure Fresh (watched : List Nat) (d : Demux) : Prop where
  ring : d.ring = []
  dropped : d.dropped = 0
  scanned : d.state.Scanned []
  pids : d.state.pids = []
  filters : ∀ pid, pid ∈ d.state.filters ↔ pid ∈ watched

theorem fresh_watchAll (depth : Nat) (watched : List Nat) :
    Fresh watched ((new depth).watchAll watched) := by
  obtain ⟨filters, same, listed⟩ := watchAll_new depth watched
  rw [same]
  exact ⟨rfl, rfl, Reassembly.scanned_nil, rfl, listed⟩

variable {d : Demux}

theorem Fresh.drained (fresh : Fresh watched d) (kept : (d.run acts).2.dropped = 0) :
    d.drained (acts ++ [.drain]) = delivered acts := by
  rw [drained_drain acts (kept.trans fresh.dropped.symm), fresh.ring]
  rfl

theorem Fresh.counted (fresh : Fresh watched d) (kept : (d.run acts).2.dropped = 0) {pid : Nat}
    {on : Bool} (switched : pid ∈ watched ↔ on = true) (steady : Act.watch pid (!on) ∉ acts) :
    Reassembly.Counted pid
      (if on then (align (delivered acts)).packets.filter (Packet.pid? · == some pid) else [])
      (d.run (acts ++ [.drain])).2.state := by
  have still : Act.watch pid (!on) ∉ acts ++ [.drain] := by simpa using steady
  have counted := counted_heard fresh.scanned ((fresh.filters pid).trans switched)
    (Reassembly.counted_nil fresh.pids pid) (acts ++ [.drain])
  rw [heard_steady still, fresh.drained kept] at counted
  simpa [align_nil] using counted

theorem Fresh.mem_pids_iff (fresh : Fresh watched d) (kept : (d.run acts).2.dropped = 0)
    (aligned : (align (delivered acts)).packets = Packet.written sent) {pid : Nat}
    (member : pid ∈ watched) (steady : .watch pid false ∉ acts) (count : PidCount) :
    (pid, count) ∈ (d.run (acts ++ [.drain])).2.state.pids ↔
      let counters := (sent.filter (·.1 % 8192 == pid)).map (·.2 % 16)
      counters ≠ [] ∧ count =
        { packets := counters.length
          discontinuities := Packet.breaks counters
          last := counters.getLast? } := by
  have counted := fresh.counted kept (iff_of_true member rfl) steady
  have entry := counted.mem_iff count
  rw [if_pos rfl, aligned, Packet.filter_written, PidCount.ofPackets_written] at entry
  have some : Packet.written (sent.filter (·.1 % 8192 == pid)) ≠ [] ↔
      (sent.filter (·.1 % 8192 == pid)).map (·.2 % 16) ≠ [] := by
    simp only [Packet.written, ne_eq, List.map_eq_nil_iff]
  exact entry.trans (and_congr_left' some)

theorem Fresh.not_mem_pids (fresh : Fresh watched d) (kept : (d.run acts).2.dropped = 0)
    {pid : Nat} (absent : pid ∉ watched) (steady : .watch pid true ∉ acts) (count : PidCount) :
    (pid, count) ∉ (d.run (acts ++ [.drain])).2.state.pids := by
  intro listed
  have counted : Reassembly.Counted pid [] (d.run (acts ++ [.drain])).2.state :=
    fresh.counted kept (iff_of_false absent Bool.false_ne_true) steady
  exact ((counted.mem_iff count).1 listed).1 rfl

theorem Fresh.found (fresh : Fresh watched d) (acts : List Act) :
    d.found 0 acts = located 0 (d.drained acts) := by
  have found := located_found fresh.scanned acts
  rwa [located_short (by decide), List.nil_append, List.nil_append] at found

theorem Fresh.scanned_run (fresh : Fresh watched d) (acts : List Act) :
    (d.run acts).2.state.Scanned (d.drained acts) :=
  Demux.scanned_run fresh.scanned acts

/-- After garbage at most one packet is lost, whatever looks like a packet in it: the last packets
found are the ones sent, or all but the first of them, where they stand, and nothing is left over.
Garbage without a sync byte costs none. -/
theorem resynchronized (low : ∀ p ∈ sent, p.1 % 256 ≠ 0x47)
    (fed : delivered acts = garbage ++ (Packet.written sent).flatten)
    (kept : (((new depth).watchAll watched).run acts).2.dropped = 0) :
    let d := (new depth).watchAll watched
    let found := d.found 0 (acts ++ [.drain])
    let r := (d.run (acts ++ [.drain])).2.state
    let carried (pid : Nat) (p : Nat × Nat) : Bool := p.1 % 8192 == pid
    (∃ earlier lost, lost ≤ 1 ∧ found =
      earlier ++ placed (garbage.length + Packet.size * lost) ((Packet.written sent).drop lost)) ∧
    (2 ≤ sent.length → r.carry = []) ∧
    (∀ pid ∈ watched, .watch pid false ∉ acts → sent.tail.countP (carried pid) ≤ r.packets pid) ∧
    (Packet.syncByte ∉ garbage → sent ≠ [] →
      found = placed garbage.length (Packet.written sent) ∧
      r.carry = [] ∧
      r.skipped = garbage.length ∧
      (∀ pid ∈ watched, .watch pid false ∉ acts → ∀ count, (pid, count) ∈ r.pids ↔
        let counters := (sent.filter (carried pid)).map (·.2 % 16)
        counters ≠ [] ∧ count =
          { packets := counters.length
            discontinuities := Packet.breaks counters
            last := counters.getLast? }) ∧
      ∀ pid, pid ∉ watched → .watch pid true ∉ acts → ∀ count, (pid, count) ∉ r.pids) := by
  intro d found r carried
  have fresh : Fresh watched d := fresh_watchAll depth watched
  have drained := (fresh.drained kept).trans fed
  -- The drains find what one alignment of all the data finds.
  have places : found = located 0 (d.drained (acts ++ [.drain])) := fresh.found _
  have scanned : r.Scanned (d.drained (acts ++ [.drain])) := fresh.scanned_run _
  rw [drained] at places scanned
  have clean : ∀ p ∈ Packet.written sent, Clean p := by
    intro packet written
    obtain ⟨p, listed, rfl⟩ := List.mem_map.1 written
    exact Packet.clean_make (low p listed) p.2
  have resumed := resumed_located clean garbage 0
  rw [Nat.zero_add] at resumed
  refine ⟨places ▸ resumed.last, ?_, ?_, ?_⟩
  next =>
    intro two
    rw [scanned.carry]
    exact resumed.rest (by simpa [Packet.written] using two)
  next =>
    intro pid member on
    have tally := (fresh.counted kept (iff_of_true member rfl) on).tally
    rw [if_pos rfl, fed, ← map_snd_located 0] at tally
    rw [Reassembly.packets_eq_tally, tally]
    exact resumed.countP_le pid
  next =>
    intro quiet more
    have some : Packet.written sent ≠ [] := by simpa [Packet.written] using more
    obtain ⟨found', aligned⟩ := located_quiet clean some quiet 0
    rw [← places, Nat.zero_add] at found'
    have aligned' : (align (delivered acts)).packets = Packet.written sent := by rw [fed, aligned]
    refine ⟨found', ?_, ?_, ?_, ?_⟩
    next => rw [scanned.carry, aligned]
    next => rw [scanned.skipped, aligned]
    next => exact fun pid member on => fresh.mem_pids_iff kept aligned' member on
    next => exact fun pid absent off => fresh.not_mem_pids kept absent off

theorem resynchronized_false_sync :
    let garbage : Bytes := [0x47, 0, 0x47]
    let sent := [(0x42, 7), (0x100, 0), (0x42, 8)]
    let data := garbage ++ (Packet.written sent).flatten
    let acts : List Act := [.deliver (data.take 200), .drain, .deliver (data.drop 200)]
    let d := (new 4).watchAll [0x42]
    let r := (d.run (acts ++ [.drain])).2.state
    (∀ p ∈ sent, p.1 % 256 ≠ 0x47) ∧ delivered acts = data ∧ (d.run acts).2.dropped = 0 ∧
      r.carry = [] ∧ r.packets 0x42 = 1 := by
  intro garbage sent data acts d r
  have low : ∀ p ∈ sent, p.1 % 256 ≠ 0x47 := by decide
  have fed : delivered acts = data := by simp [acts, delivered, Act.bytes]
  have kept : (((new 4).watchAll [0x42]).run acts).2.dropped = 0 := rfl
  obtain ⟨-, carry, packets, -⟩ := resynchronized low fed kept
  have kept' : 1 ≤ r.packets 0x42 := packets 0x42 (by decide) (by simp [acts])
  have lost : r.packets 0x42 ≤ 1 := by decide +kernel
  exact ⟨low, fed, kept, carry (by decide), Nat.le_antisymm lost kept'⟩

end Demux

end DvbReceiver
