import DvbReceiver.Proofs.Demux.Chunking
import DvbReceiver.Proofs.Packet.Recurrence

set_option autoImplicit false

namespace DvbReceiver

open Packet (packet turn Due share)

theorem align_packets (packets : List Bytes)
    (whole : ∀ p ∈ packets, p.length = Packet.size ∧ p.head? = some Packet.syncByte) :
    align packets.flatten = ⟨packets, 0, []⟩ := by
  induction packets with
  | nil => exact align_short (by simp [Packet.size])
  | cons p rest ih =>
    obtain ⟨⟨size, sync⟩, others⟩ := List.forall_mem_cons.1 whole
    rw [List.flatten_cons, align_packet size sync, ih others]

namespace PidCount

variable {m n counter : Nat} {c : PidCount}

theorem add_carrying (c : PidCount) {packet : Bytes} (payload : Packet.hasPayload packet)
    (sent : Packet.counter? packet = some counter) :
    c.add packet =
      { packets := c.packets + 1
        discontinuities := c.discontinuities +
          if c.last.any fun last => counter != (last + 1) % 16 then 1 else 0
        last := some counter } := by
  unfold add
  rw [if_pos payload, sent]
  cases c.last <;> rfl

theorem add_make (c : PidCount) (pid counter : Nat) :
    c.add (Packet.make pid counter) =
      { packets := c.packets + 1
        discontinuities := c.discontinuities +
          if c.last.any fun last => counter % 16 != (last + 1) % 16 then 1 else 0
        last := some (counter % 16) } := by
  have sent := Packet.counter?_make pid counter []
  have payload := Packet.hasPayload_make pid counter []
  rw [List.append_nil] at sent payload
  exact add_carrying c payload sent

/-- What is counted of `n` packets whose counter goes up after every `m` of them. -/
structure Steady (m n : Nat) (c : PidCount) : Prop where
  packets : c.packets = n
  discontinuities : c.discontinuities = (n - 1) - (n - 1) / m
  last : c.last = if n = 0 then none else some ((n - 1) / m % 16)

theorem steady_zero (m : Nat) : Steady m 0 {} where
  packets := rfl
  discontinuities := by simp
  last := rfl

theorem Steady.add (steady : Steady m n c) (pid : Nat) (due : counter % 16 = n / m % 16) :
    Steady m (n + 1) (c.add (Packet.make pid counter)) := by
  rw [add_make, due]
  refine ⟨congrArg (· + 1) steady.packets, ?_, rfl⟩
  have before := steady.discontinuities
  have last := steady.last
  cases n with
  | zero => simp [last, before]
  | succ n =>
    rw [if_neg (Nat.succ_ne_zero n)] at last
    simp only [Nat.add_sub_cancel] at before last ⊢
    rw [last, before, Option.any_some]
    by_cases up : m ∣ n + 1
    next =>
      have next : (n + 1) / m = n / m + 1 := by rw [Nat.succ_div, if_pos up]
      simp [next]
    next =>
      have still : (n + 1) / m = n / m := by rw [Nat.succ_div, if_neg up, Nat.add_zero]
      have broken : n / m % 16 ≠ (n / m + 1) % 16 := by omega
      have fewer : n / m ≤ n := Nat.div_le_self n m
      simp [still, broken]
      omega

end PidCount

namespace Reassembly

variable {r : Reassembly} {pid : Nat}

def tally (r : Reassembly) (pid : Nat) : PidCount :=
  ((r.pids.find? (·.1 == pid)).map (·.2)).getD {}

theorem packets_eq_tally (r : Reassembly) (pid : Nat) : r.packets pid = (r.tally pid).packets := by
  unfold packets tally
  cases r.pids.find? (·.1 == pid) <;> rfl

def Sorted (r : Reassembly) : Prop :=
  (r.pids.map (·.1)).Pairwise (· < ·)

theorem map_countPid (pid : Nat) (packet : Bytes) (pids : List (Nat × PidCount)) :
    (countPid pid packet pids).map (·.1) = Increasing.insert pid (pids.map (·.1)) := by
  induction pids with
  | nil => rfl
  | cons entry rest ih =>
    unfold countPid
    simp only [List.map_cons, Increasing.insert]
    split
    next => rfl
    next =>
      split
      next => rfl
      next => rw [List.map_cons, ih]

theorem find?_countPid (pid : Nat) (packet : Bytes) {pids : List (Nat × PidCount)}
    (sorted : (pids.map (·.1)).Pairwise (· < ·)) (other : Nat) :
    (countPid pid packet pids).find? (·.1 == other) =
      if other = pid then
        some (pid, (((pids.find? (·.1 == pid)).map Prod.snd).getD {}).add packet)
      else pids.find? (·.1 == other) := by
  induction pids with
  | nil =>
    by_cases same : other = pid
    next => simp [countPid, same]
    next => simp [countPid, same, Ne.symm same]
  | cons entry rest ih =>
    obtain ⟨p, c⟩ := entry
    rw [List.map_cons, List.pairwise_cons] at sorted
    unfold countPid
    split
    next below =>
      -- Below all that are listed, it cannot be among them.
      have missing : ((p, c) :: rest).find? (·.1 == pid) = none := by
        rw [List.find?_eq_none, List.forall_mem_cons]
        refine ⟨by simp; omega, fun entry listed => ?_⟩
        have above := sorted.1 entry.1 (List.mem_map_of_mem listed)
        simp
        omega
      rw [missing, List.find?_cons]
      by_cases same : other = pid
      next => simp [same]
      next =>
        have apart : (pid == other) = false := beq_false_of_ne (Ne.symm same)
        simp [same, apart]
    next =>
      split
      next same =>
        subst same
        by_cases here : other = pid
        next => simp [here]
        next => simp [here, Ne.symm here]
      next apart =>
        have elsewhere : (p == pid) = false := beq_false_of_ne (Ne.symm apart)
        rw [List.find?_cons, List.find?_cons, List.find?_cons, ih sorted.2]
        by_cases same : p = other
        next =>
          subst same
          simp [Ne.symm apart]
        next =>
          have later : (p == other) = false := beq_false_of_ne same
          simp [later, elsewhere]

theorem filters_take (r : Reassembly) (packet : Bytes) : (r.take packet).2.filters = r.filters := by
  unfold take
  split
  next => rfl
  next => split <;> rfl

theorem sorted_take (sorted : r.Sorted) (packet : Bytes) : (r.take packet).2.Sorted := by
  unfold take
  split
  next => exact sorted
  next pid _ =>
    split
    next =>
      rw [Sorted, map_countPid]
      exact Increasing.pairwise_insert pid _ sorted
    next => exact sorted

theorem tally_take (sorted : r.Sorted) (packet : Bytes) (pid : Nat) :
    (r.take packet).2.tally pid =
      if Packet.pid? packet = some pid ∧ pid ∈ r.filters then (r.tally pid).add packet
      else r.tally pid := by
  unfold take
  split
  next none => simp [none]
  next carried found =>
    by_cases watched : carried ∈ r.filters
    next =>
      have counted := find?_countPid carried packet sorted pid
      by_cases same : pid = carried
      next =>
        subst same
        rw [if_pos rfl] at counted
        simp only [List.contains_iff_mem, watched, if_true, tally, counted, found, true_and]
        rfl
      next =>
        rw [if_neg same] at counted
        simp [watched, tally, counted, found, Ne.symm same]
    next =>
      have ignored : ¬ (carried = pid ∧ pid ∈ r.filters) := fun ⟨same, watched'⟩ =>
        watched (same ▸ watched')
      simp [watched, found, ignored]

/-- Of the first `count` packets those of the watched PIDs are counted, each PID by itself. -/
structure Following (pids watched : List Nat) (count : Nat) (r : Reassembly) : Prop where
  filters : r.filters = watched
  sorted : r.Sorted
  counted : ∀ pid ∈ watched,
    PidCount.Steady (share pids pid) (Nat.count (Due pids pid) count) (r.tally pid)
  others : ∀ pid, pid ∉ watched → r.tally pid = {}

variable {pids watched : List Nat} {count : Nat}

theorem following_zero (filters : r.filters = watched) (fresh : r.pids = []) :
    Following pids watched 0 r where
  filters := filters
  sorted := by simp [Sorted, fresh]
  counted pid _ := by
    have none : r.tally pid = {} := by simp [tally, fresh]
    rw [none]
    exact PidCount.steady_zero _
  others pid _ := by simp [tally, fresh]

theorem Following.take (following : Following pids watched count r) :
    Following pids watched (count + 1) (r.take (packet pids count)).2 := by
  constructor
  next => exact (filters_take ..).trans following.filters
  next => exact sorted_take following.sorted _
  next =>
    intro pid listed
    have before := following.counted pid listed
    rw [tally_take following.sorted, Packet.pid?_packet, following.filters, Nat.count_succ]
    by_cases due : Due pids pid count
    next =>
      have carries : some ((turn pids count).1 % 8192) = some pid ∧ pid ∈ watched :=
        ⟨congrArg some due, listed⟩
      rw [if_pos carries, if_pos due]
      refine before.add _ ?_
      -- The source counts rounds, the demux the packets of one PID: where it is due they agree.
      rw [turn, due.round_eq, Nat.mod_mod]
    next =>
      have passes : ¬ (some ((turn pids count).1 % 8192) = some pid ∧ pid ∈ watched) :=
        fun carries => due (Option.some.inj carries.1)
      rwa [if_neg passes, if_neg due, Nat.add_zero]
  next =>
    intro pid unlisted
    have passes : ¬ (Packet.pid? (packet pids count) = some pid ∧ pid ∈ r.filters) :=
      fun carries => unlisted (following.filters ▸ carries.2)
    rw [tally_take following.sorted, if_neg passes, following.others pid unlisted]

theorem following_takeAll (start : Following pids watched 0 r) (count : Nat) :
    Following pids watched count (r.takeAll ((List.range count).map (packet pids))).2 := by
  induction count with
  | zero => exact start
  | succ count ih =>
    rw [List.range_succ, List.map_append, takeAll_append]
    exact ih.take

theorem consume_sequence (empty : r.carry = []) (pids : List Nat) (count : Nat) :
    (r.consume (Packet.sequence pids count)).2 =
      { (r.takeAll ((List.range count).map (packet pids))).2 with carry := [] } := by
  have aligned := align_packets ((List.range count).map (packet pids)) (by
    simp [Packet.length_packet, Packet.head?_packet])
  rw [← Packet.sequence_eq_flatten] at aligned
  simp only [consume, empty, List.nil_append, aligned]
  simp

/-- What is counted of the packets in `delivered`. A counter goes up once a round, so that of the
packets that a PID has in one round only the first goes on from the one before. -/
structure Accounted (pids watched : List Nat) (delivered : Bytes) (r : Reassembly) : Prop where
  skipped : r.skipped = 0
  packets : ∀ pid ∈ watched, r.packets pid = Packet.occurrences pid delivered
  discontinuities : ∀ pid ∈ watched,
    let n := Packet.occurrences pid delivered
    (r.tally pid).discontinuities = (n - 1) - (n - 1) / share pids pid
  unbroken : ∀ pid, share pids pid ≤ 1 → (r.tally pid).discontinuities = 0
  others : ∀ pid, pid ∉ watched → r.tally pid = {}

theorem accounted_consume {filters : List Nat} (listed : ∀ pid, pid ∈ filters ↔ pid ∈ watched)
    (count : Nat) :
    Accounted pids watched (Packet.sequence pids count)
      (({ filters } : Reassembly).consume (Packet.sequence pids count)).2 := by
  have following : Following pids filters count _ :=
    following_takeAll (following_zero (r := { filters }) rfl rfl) count
  rw [consume_sequence rfl]
  constructor
  next => exact skipped_takeAll ..
  next =>
    intro pid watched
    rw [Packet.occurrences_sequence, packets_eq_tally]
    exact (following.counted pid ((listed pid).2 watched)).packets
  next =>
    intro pid watched
    rw [Packet.occurrences_sequence]
    exact (following.counted pid ((listed pid).2 watched)).discontinuities
  next =>
    intro pid once
    by_cases watched : pid ∈ filters
    next =>
      have steady := (following.counted pid watched).discontinuities
      obtain absent | one := Nat.le_one_iff_eq_zero_or_eq_one.1 once
      next =>
        -- Of a PID that is not sent there is nothing to break off.
        rw [Packet.count_due_absent absent] at steady
        exact steady.trans (by simp)
      next =>
        rw [one] at steady
        exact steady.trans (by simp)
    next => exact congrArg PidCount.discontinuities (following.others pid watched)
  next =>
    intro pid unwatched
    exact following.others pid (mt (listed pid).1 unwatched)

end Reassembly

namespace Demux

theorem run_append (d : Demux) (acts more : List Act) :
    (d.run (acts ++ more)).2 = ((d.run acts).2.run more).2 := by
  induction acts generalizing d with
  | nil => rfl
  | cons act rest ih =>
    cases act with
    | deliver chunk => exact ih (d.deliver chunk)
    | watch pid on => exact ih (d.watch pid on)
    | drain => exact ih d.drain.2

theorem run_deliver (d : Demux) (chunks : List Bytes) :
    (d.run (chunks.map .deliver)).2 = chunks.foldl deliver d := by
  induction chunks generalizing d with
  | nil => rfl
  | cons chunk rest ih => exact ih (d.deliver chunk)

theorem delivered_append (acts more : List Act) :
    delivered (acts ++ more) = delivered acts ++ delivered more :=
  List.flatMap_append ..

theorem delivered_deliver (chunks : List Bytes) :
    delivered (chunks.map .deliver) = chunks.flatten := by
  rw [delivered, List.flatMap_map, List.flatMap_def]
  exact congrArg List.flatten (List.map_id chunks)

def watchAll (d : Demux) (pids : List Nat) : Demux :=
  pids.foldl (fun d pid => d.watch pid true) d

theorem watchAll_new (depth : Nat) (pids : List Nat) :
    ∃ filters, (new depth).watchAll pids = { new depth with state := { filters } } ∧
      ∀ pid, pid ∈ filters ↔ pid ∈ pids := by
  have added (earlier : List Nat) :
      ∃ filters, watchAll { new depth with state := { filters := earlier } } pids =
          { new depth with state := { filters } } ∧
        ∀ pid, pid ∈ filters ↔ pid ∈ earlier ∨ pid ∈ pids := by
    induction pids generalizing earlier with
    | nil => exact ⟨earlier, rfl, by simp⟩
    | cons first rest ih =>
      obtain ⟨filters, same, listed⟩ := ih (Increasing.insert first earlier)
      refine ⟨filters, same, fun pid => ?_⟩
      simp [listed, Increasing.mem_insert, or_assoc, or_left_comm]
  obtain ⟨filters, same, listed⟩ := added []
  exact ⟨filters, same, by simpa using listed⟩

variable {pids watched : List Nat} {depth count : Nat} {acts : List Act}

theorem accounted_drain (fixed : ∀ act ∈ acts, act.isWatch = false)
    (kept : (((new depth).watchAll watched).run acts).2.dropped = 0)
    (sequence : delivered acts = Packet.sequence pids count) :
    Reassembly.Accounted pids watched (Packet.sequence pids count)
      (((new depth).watchAll watched).run acts).2.drain.2.state := by
  obtain ⟨filters, fresh, listed⟩ := watchAll_new depth watched
  rw [fresh] at kept ⊢
  -- However the sequence was cut and drained, it comes to taking it in at one go.
  have short : ([] : Bytes).length < Packet.size := by decide
  have drained := run_append { new depth with state := { filters } } acts [.drain]
  rw [run_drain short acts fixed kept, sequence] at drained
  have state : ((run { new depth with state := { filters } } acts).2.drain).2.state =
      (({ filters } : Reassembly).consume (Packet.sequence pids count)).2 :=
    (congrArg Demux.state drained).symm
  rw [state]
  exact Reassembly.accounted_consume listed count

end Demux

end DvbReceiver
