import DvbReceiver.Demux

set_option autoImplicit false

namespace DvbReceiver

@[elab_as_elim]
theorem align_induction {motive : Bytes → Prop}
    (short : ∀ data, data.length < Packet.size → motive data)
    (skip : ∀ b tail, Packet.size ≤ (b :: tail).length → b ≠ Packet.syncByte → motive tail →
      motive (b :: tail))
    (packet : ∀ packet rest, packet.length = Packet.size →
      packet.head? = some Packet.syncByte → motive rest → motive (packet ++ rest))
    (data : Bytes) : motive data := by
  induction length : data.length using Nat.strongRecOn generalizing data with
  | ind n ih =>
    by_cases few : data.length < Packet.size
    next => exact short data few
    next =>
      cases data with
      | nil => simp [Packet.size] at few
      | cons b tail =>
        by_cases sync : b = Packet.syncByte
        next =>
          have whole : ((b :: tail).take Packet.size).length = Packet.size := by
            simp at few ⊢
            omega
          have fewer : ((b :: tail).drop Packet.size).length < n := by
            simp [Packet.size] at few length ⊢
            omega
          have head : ((b :: tail).take Packet.size).head? = some Packet.syncByte := by
            simp [Packet.size, sync]
          have taken := packet _ _ whole head (ih _ fewer _ rfl)
          rwa [List.take_append_drop] at taken
        next =>
          have fewer : tail.length < n := by simp [← length]
          exact skip b tail (by omega) sync (ih _ fewer _ rfl)

theorem align_append (first second : Bytes) :
    align (first ++ second) =
      { packets := (align first).packets ++ (align ((align first).rest ++ second)).packets
        skipped := (align first).skipped + (align ((align first).rest ++ second)).skipped
        rest := (align ((align first).rest ++ second)).rest } := by
  induction first using align_induction with
  | short first few => simp [align_short few]
  | skip b tail long other ih =>
    have longer : Packet.size ≤ (b :: (tail ++ second)).length := by
      simp at long ⊢
      omega
    simp [align_skip long other, align_skip longer other, ih, Nat.add_right_comm]
  | packet packet rest whole sync ih =>
    simp [align_packet whole sync, ih]

theorem length_rest_align (data : Bytes) : (align data).rest.length < Packet.size := by
  induction data using align_induction with
  | short data few => simpa [align_short few] using few
  | skip b tail long other ih => simpa [align_skip long other] using ih
  | packet packet rest whole sync ih => simpa [align_packet whole sync] using ih

namespace Reassembly

theorem take_elsewhere (r : Reassembly) (carry : Bytes) (skipped : Nat) (packet : Bytes) :
    ({ r with carry, skipped } : Reassembly).take packet =
      ((r.take packet).1, { (r.take packet).2 with carry, skipped }) := by
  simp only [take]
  cases Packet.pid? packet with
  | none => rfl
  | some pid => by_cases watched : r.filters.contains pid <;> simp only [watched] <;> rfl

theorem takeAll_elsewhere (r : Reassembly) (carry : Bytes) (skipped : Nat) (packets : List Bytes) :
    ({ r with carry, skipped } : Reassembly).takeAll packets =
      ((r.takeAll packets).1, { (r.takeAll packets).2 with carry, skipped }) := by
  induction packets generalizing r with
  | nil => rfl
  | cons packet rest ih => simp [takeAll, take_elsewhere, ih]

theorem takeAll_append (r : Reassembly) (first second : List Bytes) :
    r.takeAll (first ++ second) =
      ((r.takeAll first).1 + ((r.takeAll first).2.takeAll second).1,
        ((r.takeAll first).2.takeAll second).2) := by
  induction first generalizing r with
  | nil => simp [takeAll]
  | cons packet rest ih => simp [takeAll, ih, Nat.add_assoc]

theorem skipped_takeAll (r : Reassembly) (packets : List Bytes) :
    (r.takeAll packets).2.skipped = r.skipped := by
  have same := takeAll_elsewhere r r.carry r.skipped packets
  exact congrArg (·.2.skipped) same

theorem consume_append (r : Reassembly) (first second : Bytes) :
    r.consume (first ++ second) =
      ((r.consume first).1 + ((r.consume first).2.consume second).1,
        ((r.consume first).2.consume second).2) := by
  simp only [consume]
  rw [← List.append_assoc, align_append, takeAll_append]
  simp [takeAll_elsewhere, skipped_takeAll, Nat.add_assoc]

theorem length_carry_consume (r : Reassembly) (chunk : Bytes) :
    (r.consume chunk).2.carry.length < Packet.size :=
  length_rest_align (r.carry ++ chunk)

theorem consume_nil {r : Reassembly} (short : r.carry.length < Packet.size) :
    r.consume [] = (0, r) := by
  simp [consume, align_short short, takeAll]

theorem consumeAll_eq {r : Reassembly} (short : r.carry.length < Packet.size)
    (chunks : List Bytes) : r.consumeAll chunks = r.consume chunks.flatten := by
  induction chunks generalizing r with
  | nil => simp [consumeAll, consume_nil short]
  | cons chunk rest ih =>
    have later := ih (length_carry_consume r chunk)
    simp [consumeAll, later, consume_append]

end Reassembly

namespace Demux

inductive Act where
  | deliver (chunk : Bytes)
  | watch (pid : Nat) (on : Bool)
  | drain
  deriving DecidableEq, Repr

def Act.isWatch : Act → Bool
  | .watch .. => true
  | _ => false

def Act.bytes : Act → Bytes
  | .deliver chunk => chunk
  | _ => []

def delivered (acts : List Act) : Bytes :=
  acts.flatMap Act.bytes

/-- The number of packets that the drains of a run told of, and the demux after it. -/
def run (d : Demux) : List Act → Nat × Demux
  | [] => (0, d)
  | .deliver chunk :: rest => (d.deliver chunk).run rest
  | .watch pid on :: rest => (d.watch pid on).run rest
  | .drain :: rest =>
    let (first, d) := d.drain
    let (others, d) := d.run rest
    (first + others, d)

theorem state_deliver (d : Demux) (chunk : Bytes) : (d.deliver chunk).state = d.state := by
  unfold deliver
  split <;> rfl

theorem length_carry_drain {d : Demux} (short : d.state.carry.length < Packet.size) :
    d.drain.2.state.carry.length < Packet.size := by
  simp only [drain, Reassembly.consumeAll_eq short]
  exact Reassembly.length_carry_consume _ _

theorem length_carry_run {d : Demux} (short : d.state.carry.length < Packet.size)
    (acts : List Act) : (d.run acts).2.state.carry.length < Packet.size := by
  induction acts generalizing d with
  | nil => exact short
  | cons act rest ih =>
    cases act with
    | deliver chunk =>
      apply ih
      rwa [state_deliver]
    | watch pid on => exact ih short
    | drain => exact ih (length_carry_drain short)

theorem dropped_le_deliver (d : Demux) (chunk : Bytes) :
    d.dropped ≤ (d.deliver chunk).dropped := by
  unfold deliver
  split <;> simp

theorem dropped_le_run (d : Demux) (acts : List Act) : d.dropped ≤ (d.run acts).2.dropped := by
  induction acts generalizing d with
  | nil => simp [run]
  | cons act rest ih =>
    cases act with
    | deliver chunk => exact Nat.le_trans (dropped_le_deliver d chunk) (ih _)
    | watch pid on => exact ih (d.watch pid on)
    | drain => exact ih d.drain.2

theorem deliver_kept {d : Demux} {chunk : Bytes} (kept : (d.deliver chunk).dropped ≤ d.dropped) :
    d.deliver chunk = { d with ring := d.ring ++ [chunk] } := by
  unfold deliver at kept ⊢
  by_cases room : d.ring.length < d.capacity
  next => simp [room]
  next =>
    rw [if_neg room] at kept
    exact absurd kept (Nat.not_succ_le_self _)

def digest (d : Demux) (data : Bytes) : Nat × Demux :=
  let (matched, state) := d.state.consume (d.ring.flatten ++ data)
  (matched, { d with ring := [], state })

theorem drain_eq_digest {d : Demux} (short : d.state.carry.length < Packet.size) :
    d.drain = d.digest [] := by
  simp [drain, digest, Reassembly.consumeAll_eq short]

theorem digest_append {d : Demux} (short : d.state.carry.length < Packet.size) (data : Bytes) :
    d.digest data = (d.drain.1 + (d.drain.2.digest data).1, (d.drain.2.digest data).2) := by
  simp [drain, digest, Reassembly.consumeAll_eq short, Reassembly.consume_append]

theorem run_drain {d : Demux} (short : d.state.carry.length < Packet.size) (acts : List Act)
    (fixed : ∀ act ∈ acts, act.isWatch = false) (kept : (d.run acts).2.dropped = d.dropped) :
    d.run (acts ++ [.drain]) = d.digest (delivered acts) := by
  induction acts generalizing d with
  | nil => simp [run, drain_eq_digest short, delivered]
  | cons act rest ih =>
    simp only [List.forall_mem_cons] at fixed
    cases act with
    | deliver chunk =>
      have later := dropped_le_run (d.deliver chunk) rest
      have queued := deliver_kept (kept ▸ later)
      simp only [run, queued] at kept
      simp only [List.cons_append, run, queued]
      rw [ih (d := { d with ring := d.ring ++ [chunk] }) short fixed.2 kept]
      simp [digest, delivered, Act.bytes]
    | watch pid on => simp [Act.isWatch] at fixed
    | drain =>
      simp only [List.cons_append, run]
      rw [ih (length_carry_drain short) fixed.2 kept, digest_append short]
      simp [delivered, Act.bytes]

/-- From whatever state a demux has come to, neither the places where the data that follows is cut
nor those where it is drained matter, as long as the filters stay and nothing is dropped. -/
theorem run_drain_congr :
    (∀ (r : Reassembly) (first second : Bytes),
      r.consume (first ++ second) =
        ((r.consume first).1 + ((r.consume first).2.consume second).1,
          ((r.consume first).2.consume second).2)) ∧
    ∀ (depth : Nat) (before acts acts' : List Act),
      let d := ((new depth).run before).2
      (∀ act ∈ acts ++ acts', act.isWatch = false) → delivered acts = delivered acts' →
      (d.run acts).2.dropped = d.dropped → (d.run acts').2.dropped = d.dropped →
      d.run (acts ++ [.drain]) = d.run (acts' ++ [.drain]) := by
  refine ⟨Reassembly.consume_append, ?_⟩
  intro depth before acts acts' d fixed same kept kept'
  have short : d.state.carry.length < Packet.size :=
    length_carry_run (d := new depth) (by simp [new, Packet.size]) before
  simp only [List.forall_mem_append] at fixed
  rw [run_drain short acts fixed.1 kept, run_drain short acts' fixed.2 kept', same]

theorem run_drain_congr_packets :
    let data : Bytes := 0 :: (Packet.make 0x42 0 ++ Packet.make 0x42 1)
    let d := ((new 4).run [.watch 0x42 true]).2
    let acts : List Act := [.deliver (data.take 100), .drain, .deliver [], .deliver (data.drop 100)]
    (∀ act ∈ acts ++ [.deliver data], act.isWatch = false) ∧
      delivered acts = delivered [.deliver data] ∧
      (d.run acts).2.dropped = d.dropped ∧ (d.run [.deliver data]).2.dropped = d.dropped ∧
      (d.run [.deliver data, .drain]).1 = 2 ∧
      d.run (acts ++ [.drain]) = d.run [.deliver data, .drain] := by
  intro data d acts
  have fixed : ∀ act ∈ acts ++ [.deliver data], act.isWatch = false := by
    simp [acts, Act.isWatch]
  have same : delivered acts = delivered [.deliver data] := by
    simp [acts, delivered, Act.bytes]
  have found : (d.run [.deliver data, .drain]).1 = 2 := by cbv
  exact ⟨fixed, same, rfl, rfl, found,
    run_drain_congr.2 4 [.watch 0x42 true] acts [.deliver data] fixed same rfl rfl⟩

end Demux

end DvbReceiver
