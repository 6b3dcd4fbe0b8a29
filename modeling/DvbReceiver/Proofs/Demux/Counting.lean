import DvbReceiver.Proofs.Demux.Conservation
import DvbReceiver.Proofs.Demux.Continuity

set_option autoImplicit false

namespace DvbReceiver

namespace Packet

def counters (packets : List Bytes) : List Nat :=
  packets.filterMap counter?

/-- How often, in a list of continuity counters, one does not go on from the one before it. -/
def breaks (counters : List Nat) : Nat :=
  (counters.zip counters.tail).countP fun (before, after) => after != (before + 1) % 16

theorem length_counters_le (packets : List Bytes) :
    (counters packets).length ≤ packets.length :=
  List.length_filterMap_le ..

theorem counter?_of_pid? {packet : Bytes} {pid : Nat} (carried : pid? packet = some pid) :
    (counter? packet).isSome := by
  unfold pid? at carried
  split at carried
  next sync _ _ flags _ =>
    split at carried
    next here => simp [counter?, here]
    next => simp at carried
  next => simp at carried

theorem length_counters {packets : List Bytes} {pid : Nat}
    (carried : ∀ packet ∈ packets, pid? packet = some pid) :
    (counters packets).length = packets.length := by
  induction packets with
  | nil => rfl
  | cons packet rest ih =>
    obtain ⟨first, others⟩ := List.forall_mem_cons.1 carried
    obtain ⟨counter, here⟩ := Option.isSome_iff_exists.1 (counter?_of_pid? first)
    have later := ih others
    unfold counters at later ⊢
    simp [here, later]

theorem counter_lt {packets : List Bytes} {counter : Nat} (sent : counter ∈ counters packets) :
    counter < 16 := by
  obtain ⟨packet, -, here⟩ := List.mem_filterMap.1 sent
  unfold counter? at here
  split at here
  next =>
    split at here
    next =>
      cases here
      exact Nat.mod_lt _ (by decide)
    next => simp at here
  next => simp at here

theorem breaks_concat (counters : List Nat) (counter : Nat) :
    breaks (counters ++ [counter]) = breaks counters +
      if counters.getLast?.any fun last => counter != (last + 1) % 16 then 1 else 0 := by
  induction counters with
  | nil => rfl
  | cons first rest ih =>
    cases rest with
    | nil => simp [breaks, List.countP_cons]
    | cons second rest =>
      have pair (more : List Nat) : breaks (first :: second :: more) =
          breaks (second :: more) + if second != (first + 1) % 16 then 1 else 0 := by
        simp [breaks, List.countP_cons]
      rw [List.cons_append, List.cons_append, pair, pair, List.getLast?_cons_cons,
        ← List.cons_append, ih, Nat.add_right_comm]

theorem breaks_lt {counters : List Nat} (some : counters ≠ []) :
    breaks counters < counters.length := by
  have pairs : breaks counters ≤ (counters.zip counters.tail).length := List.countP_le_length
  have first := List.length_pos_of_ne_nil some
  simp only [List.length_zip, List.length_tail] at pairs
  omega

end Packet

namespace PidCount

def ofPackets (packets : List Bytes) : PidCount :=
  let counters := Packet.counters (packets.filter (Packet.hasPayload ·))
  { packets := packets.length
    discontinuities := Packet.breaks counters
    last := counters.getLast? }

theorem ofPackets_concat (packets : List Bytes) (packet : Bytes) :
    ofPackets (packets ++ [packet]) = (ofPackets packets).add packet := by
  by_cases payload : Packet.hasPayload packet
  next =>
    cases sent : Packet.counter? packet with
    | none => simp [ofPackets, add, Packet.counters, payload, sent]
    | some counter =>
      rw [add_carrying _ payload sent]
      simp [ofPackets, Packet.counters, payload, sent, Packet.breaks_concat]
  next => simp [ofPackets, add, payload]

theorem discontinuities_ofPackets_lt {packets : List Bytes} (some : packets ≠ []) :
    (ofPackets packets).discontinuities < (ofPackets packets).packets := by
  have fewer := Nat.le_trans (Packet.length_counters_le (packets.filter (Packet.hasPayload ·)))
    (List.length_filter_le ..)
  by_cases none : Packet.counters (packets.filter (Packet.hasPayload ·)) = []
  next => simpa [ofPackets, none, Packet.breaks, List.length_pos_iff] using some
  next => exact Nat.lt_of_lt_of_le (Packet.breaks_lt none) fewer

theorem last_ofPackets_lt {packets : List Bytes} {last : Nat}
    (here : (ofPackets packets).last = some last) : last < 16 :=
  Packet.counter_lt (List.mem_of_getLast? here)

end PidCount

namespace Reassembly

variable {r : Reassembly} {pid : Nat} {heard : List Bytes}

theorem mem_iff_find? {pids : List (Nat × PidCount)}
    (sorted : (pids.map (·.1)).Pairwise (· < ·)) (pid : Nat) (count : PidCount) :
    (pid, count) ∈ pids ↔ pid ∈ pids.map (·.1) ∧
      count = ((pids.find? (·.1 == pid)).map (·.2)).getD {} := by
  induction pids with
  | nil => simp
  | cons entry rest ih =>
    obtain ⟨p, c⟩ := entry
    rw [List.map_cons, List.pairwise_cons] at sorted
    rw [List.mem_cons, ih sorted.2, List.find?_cons]
    by_cases same : p = pid
    next =>
      subst same
      have once : p ∉ rest.map (·.1) := fun again => Nat.lt_irrefl _ (sorted.1 p again)
      simp only [once, Prod.mk.injEq, true_and, false_and, or_false, beq_self_eq_true,
        Option.map_some, Option.getD_some, List.map_cons, List.mem_cons, or_false]
    next =>
      have apart : (p == pid) = false := beq_false_of_ne same
      simp [apart, Ne.symm same]

theorem mem_take (r : Reassembly) (packet : Bytes) (pid : Nat) :
    pid ∈ (r.take packet).2.pids.map (·.1) ↔
      pid ∈ r.pids.map (·.1) ∨ (Packet.pid? packet = some pid ∧ pid ∈ r.filters) := by
  unfold take
  split
  next none => simp [none]
  next carried found =>
    split
    next watched =>
      rw [map_countPid, Increasing.mem_insert, found, Option.some.injEq]
      rw [List.contains_iff_mem] at watched
      constructor
      next =>
        rintro (rfl | listed)
        · exact .inr ⟨rfl, watched⟩
        · exact .inl listed
      next =>
        rintro (listed | ⟨rfl, -⟩)
        · exact .inr listed
        · exact .inl rfl
    next unwatched =>
      rw [List.contains_iff_mem] at unwatched
      have ignored : ¬ (some carried = some pid ∧ pid ∈ r.filters) := by
        rintro ⟨same, watched⟩
        cases same
        exact unwatched watched
      rw [found, or_iff_left ignored]

/-- Of one PID `heard` and nothing else has been counted. -/
structure Counted (pid : Nat) (heard : List Bytes) (r : Reassembly) : Prop where
  sorted : r.Sorted
  listed : pid ∈ r.pids.map (·.1) ↔ heard ≠ []
  tally : r.tally pid = PidCount.ofPackets heard

theorem counted_nil (fresh : r.pids = []) (pid : Nat) : Counted pid [] r where
  sorted := by simp [Sorted, fresh]
  listed := by simp [fresh]
  tally := by simp [Reassembly.tally, fresh, PidCount.ofPackets, Packet.counters, Packet.breaks]

theorem Counted.mem_iff (counted : Counted pid heard r) (count : PidCount) :
    (pid, count) ∈ r.pids ↔ heard ≠ [] ∧ count = PidCount.ofPackets heard := by
  rw [mem_iff_find? counted.sorted, counted.listed, ← counted.tally]
  rfl

theorem Counted.take (counted : Counted pid heard r) (packet : Bytes) :
    Counted pid (heard ++ if pid ∈ r.filters then
        [packet].filter (Packet.pid? · == some pid) else []) (r.take packet).2 := by
  have listed := mem_take r packet pid
  have tally := tally_take counted.sorted packet pid
  by_cases counts : Packet.pid? packet = some pid ∧ pid ∈ r.filters
  next =>
    obtain ⟨carried, watched⟩ := counts
    refine ⟨sorted_take counted.sorted packet, ?_, ?_⟩
    next => simp [listed, carried, watched]
    next =>
      rw [tally, if_pos ⟨carried, watched⟩, counted.tally, if_pos watched]
      simp [carried, PidCount.ofPackets_concat]
  next =>
    have nothing : (if pid ∈ r.filters then
        [packet].filter (Packet.pid? · == some pid) else []) = [] := by
      split
      next watched =>
        have other : Packet.pid? packet ≠ some pid := fun carried => counts ⟨carried, watched⟩
        simp [other]
      next => rfl
    rw [nothing, List.append_nil]
    refine ⟨sorted_take counted.sorted packet, ?_, ?_⟩
    next => rw [listed, or_iff_left counts, counted.listed]
    next => rw [tally, if_neg counts, counted.tally]

theorem filters_takeAll (r : Reassembly) (packets : List Bytes) :
    (r.takeAll packets).2.filters = r.filters := by
  induction packets generalizing r with
  | nil => rfl
  | cons packet rest ih => exact (ih _).trans (filters_take r packet)

theorem Counted.takeAll (counted : Counted pid heard r) (packets : List Bytes) :
    Counted pid (heard ++ if pid ∈ r.filters then
        packets.filter (Packet.pid? · == some pid) else []) (r.takeAll packets).2 := by
  induction packets generalizing r heard with
  | nil => simpa [Reassembly.takeAll] using counted
  | cons packet rest ih =>
    have later := ih (counted.take packet)
    rw [filters_take, List.append_assoc] at later
    rw [Reassembly.takeAll, ← List.singleton_append, List.filter_append]
    by_cases watched : pid ∈ r.filters
    next => simpa only [watched, if_true] using later
    next => simpa only [watched, if_false, List.append_nil] using later

theorem Counted.consume (counted : Counted pid heard r) (chunk : Bytes) :
    Counted pid (heard ++ if pid ∈ r.filters then
        (align (r.carry ++ chunk)).packets.filter (Packet.pid? · == some pid) else [])
      (r.consume chunk).2 := by
  obtain ⟨sorted, listed, tally⟩ := counted.takeAll (align (r.carry ++ chunk)).packets
  exact ⟨sorted, listed, tally⟩

theorem mem_filters_watch (r : Reassembly) (other : Nat) (on : Bool) (pid : Nat) :
    pid ∈ (r.watch other on).filters ↔ if other = pid then on = true else pid ∈ r.filters := by
  unfold watch
  by_cases same : other = pid
  next => cases on <;> simp [same, Increasing.mem_insert]
  next => cases on <;> simp [same, Ne.symm same, Increasing.mem_insert]

end Reassembly

namespace Demux

/-- The packets of one PID that the drains of a run come to while it is watched: of those in all
that was drained so far, the ones that are not yet in what was drained before. Before the run `past`
has been drained, and `on` tells whether the PID is watched. -/
def heard (d : Demux) (pid : Nat) (past : Bytes) (on : Bool) : List Act → List Bytes
  | [] => []
  | .deliver chunk :: rest => (d.deliver chunk).heard pid past on rest
  | .watch other now :: rest =>
    (d.watch other now).heard pid past (if other = pid then now else on) rest
  | .drain :: rest =>
    let all := past ++ d.ring.flatten
    let fresh := (align all).packets.drop (align past).packets.length
    (if on then fresh.filter (Packet.pid? · == some pid) else []) ++
      d.drain.2.heard pid all on rest

theorem heard_steady {d : Demux} {pid : Nat} {on : Bool} {acts : List Act}
    (steady : Act.watch pid (!on) ∉ acts) (past : Bytes) :
    d.heard pid past on acts =
      if on then
        ((align (past ++ d.drained acts)).packets.drop (align past).packets.length).filter
          (Packet.pid? · == some pid)
      else [] := by
  induction acts generalizing d past with
  | nil => simp [heard, drained]
  | cons act rest ih =>
    obtain ⟨other, steady'⟩ := List.ne_and_not_mem_of_not_mem_cons steady
    cases act with
    | deliver chunk => exact ih steady' past
    | watch pid' now =>
      -- Only the other way would it be switched.
      have still : (if pid' = pid then now else on) = on := by
        split
        next same =>
          subst same
          exact Bool.not_eq_not.1 fun differs => other (by simp [differs])
        next => rfl
      rw [heard, still]
      exact ih steady' past
    | drain =>
      have later := ih (d := d.drain.2) steady' (past ++ d.ring.flatten)
      have first := align_append past d.ring.flatten
      have more := align_append (past ++ d.ring.flatten) (d.drain.2.drained rest)
      cases on
      next => simpa [heard] using later
      next =>
        rw [heard, drained, if_pos rfl, later, if_pos rfl, if_pos rfl, ← List.filter_append,
          ← List.append_assoc, more, first]
        simp

variable {d : Demux} {pid : Nat} {past : Bytes} {on : Bool} {before : List Bytes}

theorem counted_drain (scanned : d.state.Scanned past)
    (watched : pid ∈ d.state.filters ↔ on = true)
    (counted : Reassembly.Counted pid before d.state) :
    Reassembly.Counted pid (before ++ if on then
        ((align (past ++ d.ring.flatten)).packets.drop (align past).packets.length).filter
          (Packet.pid? · == some pid) else [])
      d.drain.2.state := by
  have short : d.state.carry.length < Packet.size := scanned.carry ▸ length_rest_align past
  have drained : d.drain.2.state = (d.state.consume d.ring.flatten).2 := by
    simp only [drain, Reassembly.consumeAll_eq short]
  have fresh : (align (d.state.carry ++ d.ring.flatten)).packets =
      (align (past ++ d.ring.flatten)).packets.drop (align past).packets.length := by
    rw [align_append past, scanned.carry, List.drop_left]
  have later := counted.consume d.ring.flatten
  rw [drained]
  simpa only [fresh, watched] using later

theorem filters_drain (d : Demux) : d.drain.2.state.filters = d.state.filters := by
  have kept (chunks : List Bytes) (r : Reassembly) :
      (r.consumeAll chunks).2.filters = r.filters := by
    induction chunks generalizing r with
    | nil => rfl
    | cons chunk rest ih => exact (ih _).trans (Reassembly.filters_takeAll r _)
  exact kept d.ring d.state

theorem counted_heard (scanned : d.state.Scanned past)
    (watched : pid ∈ d.state.filters ↔ on = true)
    (counted : Reassembly.Counted pid before d.state) (acts : List Act) :
    Reassembly.Counted pid (before ++ d.heard pid past on acts) (d.run acts).2.state := by
  induction acts generalizing d past on before with
  | nil => simpa [heard, run] using counted
  | cons act rest ih =>
    cases act with
    | deliver chunk =>
      have same := state_deliver d chunk
      exact ih (same ▸ scanned) (same ▸ watched) (same ▸ counted)
    | watch other now =>
      refine ih (d := d.watch other now) (scanned.watch other now) ?_
        ⟨counted.sorted, counted.listed, counted.tally⟩
      have listed := Reassembly.mem_filters_watch d.state other now pid
      by_cases same : other = pid <;> simp_all [watch]
    | drain =>
      have later := ih (scanned.consumeAll d.ring) ((filters_drain d).symm ▸ watched)
        (counted_drain scanned watched counted)
      simpa [heard, run] using later

theorem pid?_heard (d : Demux) (pid : Nat) (past : Bytes) (on : Bool) (acts : List Act) :
    ∀ packet ∈ d.heard pid past on acts, Packet.pid? packet = some pid := by
  induction acts generalizing d past on with
  | nil => simp [heard]
  | cons act rest ih =>
    cases act with
    | deliver chunk => exact ih (d.deliver chunk) past on
    | watch other now => exact ih (d.watch other now) past _
    | drain =>
      rw [heard, List.forall_mem_append]
      refine ⟨?_, ih d.drain.2 _ on⟩
      cases on <;> simp [List.mem_filter]

/-- However the chunks are cut and whenever filters are set, a PID is listed just if a packet of it
was come to while it was watched. Its numbers are those of these packets; the ones without payload
play no part in the discontinuities. Whatever packets come next, the counter that is remembered
leaves room in a byte for the one to follow. -/
theorem counted_run (depth : Nat) (acts : List Act) :
    let r := ((new depth).run acts).2.state
    let heard (pid : Nat) := (new depth).heard pid [] false acts
    let carrying (pid : Nat) := (heard pid).filter (Packet.hasPayload ·)
    (r.pids.map (·.1)).Pairwise (· < ·) ∧
    (∀ pid count, (pid, count) ∈ r.pids ↔
      heard pid ≠ [] ∧
      count.packets = (heard pid).length ∧
      count.discontinuities = Packet.breaks (Packet.counters (carrying pid)) ∧
      count.last = (Packet.counters (carrying pid)).getLast?) ∧
    (∀ pid, (Packet.counters (carrying pid)).length = (carrying pid).length) ∧
    (∀ pid count, (pid, count) ∈ r.pids → count.discontinuities < count.packets) ∧
    ∀ packets pid count, (pid, count) ∈ (r.takeAll packets).2.pids →
      ∀ last ∈ count.last, last + 1 < 2 ^ 8 := by
  intro r heard carrying
  -- Each PID is followed by itself.
  have counted (pid : Nat) : Reassembly.Counted pid (heard pid) r := by
    have start : Reassembly.Counted pid [] (new depth).state := Reassembly.counted_nil rfl pid
    have unwatched : pid ∈ (new depth).state.filters ↔ false = true := by simp [new]
    have counted := counted_heard Reassembly.scanned_nil unwatched start acts
    exact counted
  refine ⟨(counted 0).sorted, fun pid count => ?_, fun pid => ?_, fun pid count listed => ?_,
    fun packets pid count listed last here => ?_⟩
  next =>
    rw [(counted pid).mem_iff]
    obtain ⟨packets, discontinuities, last⟩ := count
    simp [PidCount.ofPackets, carrying]
  next =>
    have carried : ∀ packet ∈ carrying pid, Packet.pid? packet = some pid := fun packet listed =>
      pid?_heard _ pid [] false acts packet (List.mem_of_mem_filter listed)
    exact Packet.length_counters carried
  next =>
    obtain ⟨some, rfl⟩ := ((counted pid).mem_iff count).1 listed
    exact PidCount.discontinuities_ofPackets_lt some
  next =>
    -- What is counted next goes by the packets as well, so that it is bounded in the same way.
    obtain ⟨-, rfl⟩ := (((counted pid).takeAll packets).mem_iff count).1 listed
    have small := PidCount.last_ofPackets_lt here
    omega

end Demux

end DvbReceiver
