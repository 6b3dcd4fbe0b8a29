import DvbReceiver.Packet.Source

set_option autoImplicit false

namespace DvbReceiver.Packet

def carried (pids : List Nat) : List Nat :=
  if pids.isEmpty then [nullPid] else pids

def turn (pids : List Nat) (k : Nat) : Nat × Nat :=
  let n := (carried pids).length
  ((carried pids).getD (k % n) nullPid, k / n % 16)

def packet (pids : List Nat) (k : Nat) : Bytes :=
  make (turn pids k).1 (turn pids k).2

def sequence (pids : List Nat) (count : Nat) : Bytes :=
  (List.range count).flatMap (packet pids)

theorem length_packet (pids : List Nat) (k : Nat) : (packet pids k).length = size :=
  length_make ..

theorem sequence_succ (pids : List Nat) (count : Nat) :
    sequence pids (count + 1) = sequence pids count ++ packet pids count := by
  simp [sequence, List.range_succ]

theorem length_sequence (pids : List Nat) (count : Nat) :
    (sequence pids count).length = count * size := by
  induction count with
  | zero => simp [sequence]
  | succ count ih => rw [sequence_succ, List.length_append, ih, length_packet, Nat.succ_mul]

theorem carried_pos (pids : List Nat) : 0 < (carried pids).length := by
  unfold carried
  split
  next => exact Nat.one_pos
  next some => exact List.length_pos_iff.2 fun none => some (by simp [none])

theorem turn_round (pids : List Nat) (k : Nat) :
    turn pids (k + (carried pids).length) =
      ((turn pids k).1, ((turn pids k).2 + 1) % 16) := by
  have positive := carried_pos pids
  simp [turn, Nat.add_div_right k positive, Nat.add_mod]

namespace Source

theorem take_add (m n : Nat) (s : Source) :
    s.take (m + n) = ((s.take m).1 ++ ((s.take m).2.take n).1, ((s.take m).2.take n).2) := by
  induction m generalizing s with
  | zero => simp [take]
  | succ m ih =>
    rw [Nat.succ_add]
    simp [take, ih]

/-- As it stands after `k` packets: the turns of the next round are due or waiting. -/
def after (pids : List Nat) (k : Nat) : Source where
  due := turn pids k
  waiting := (List.range' (k + 1) ((carried pids).length - 1)).map (turn pids)

theorem ofPids_eq_after (pids : List Nat) : ofPids pids = after pids 0 := by
  cases pids with
  | nil => rfl
  | cons pid rest =>
    have waiting : rest.map (fun pid => (pid, 0)) =
        (List.range' 1 rest.length).map (turn (pid :: rest)) := by
      refine List.ext_getElem (by simp) fun i within _ => ?_
      have within : i < rest.length := by simpa using within
      have first : (1 + i) % (rest.length + 1) = i + 1 := by
        rw [Nat.add_comm, Nat.mod_eq_of_lt (by omega)]
      have none : (1 + i) / (rest.length + 1) = 0 := Nat.div_eq_of_lt (by omega)
      simp [turn, carried, first, none, within]
    simp [ofPids, after, waiting, turn, carried]

theorem next_after (pids : List Nat) (k : Nat) :
    (after pids k).next = (packet pids k, after pids (k + 1)) := by
  have round := turn_round pids k
  have positive := carried_pos pids
  cases others : (carried pids).length - 1 with
  | zero =>
    have one : (carried pids).length = 1 := by omega
    rw [one] at round
    simp [next, after, packet, others, round]
  | succ m =>
    -- What was sent goes behind those that wait, as the last of a round that begins one turn later.
    have last : k + 2 + m = k + (carried pids).length := by omega
    have waiting : (List.range' (k + 2) m).map (turn pids) ++
        [((turn pids k).1, ((turn pids k).2 + 1) % 16)] =
        (List.range' (k + 2) (m + 1)).map (turn pids) := by
      rw [List.range'_concat, Nat.one_mul, List.map_append, last, ← round]
      rfl
    have due : (List.range' (k + 1) (m + 1)).map (turn pids) =
        turn pids (k + 1) :: (List.range' (k + 2) m).map (turn pids) := by
      rw [List.range'_succ, List.map_cons]
    simp [next, after, packet, others, due, waiting]

theorem take_after (pids : List Nat) (k count : Nat) :
    (after pids k).take count =
      ((List.range' k count).flatMap (packet pids), after pids (k + count)) := by
  induction count generalizing k with
  | zero => rfl
  | succ count ih =>
    simp [take, next_after, ih, List.range'_succ, Nat.add_comm, Nat.add_left_comm]

theorem take_ofPids (pids : List Nat) (count : Nat) :
    (ofPids pids).take count = (sequence pids count, after pids count) := by
  rw [ofPids_eq_after, take_after, Nat.zero_add, sequence, List.range_eq_range']

end Source

end DvbReceiver.Packet
