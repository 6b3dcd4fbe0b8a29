import DvbReceiver.Proofs.Packet.Sequence
import Mathlib.Data.Nat.Count

set_option autoImplicit false

namespace DvbReceiver.Packet

variable {pids : List Nat} {pid k : Nat}

/-- The packet that comes after `k` others carries `pid`, in the thirteen bits that there are. -/
def Due (pids : List Nat) (pid k : Nat) : Prop :=
  (turn pids k).1 % 8192 = pid

instance (pids : List Nat) (pid : Nat) : DecidablePred (Due pids pid) :=
  fun k => inferInstanceAs (Decidable ((turn pids k).1 % 8192 = pid))

def share (pids : List Nat) (pid : Nat) : Nat :=
  (carried pids).countP (· % 8192 == pid)

def occurrences (pid : Nat) (data : Bytes) : Nat :=
  Nat.count (fun k => pid? (data.drop (k * size)) = some pid) (data.length / size)

theorem due_round (pids : List Nat) (pid k : Nat) :
    Due pids pid (k + (carried pids).length) ↔ Due pids pid k := by
  rw [Due, turn_round, Due]

theorem count_due_length (pids : List Nat) (pid : Nat) :
    Nat.count (Due pids pid) (carried pids).length = share pids pid := by
  -- The front of a round is the front of the list of PIDs.
  have front (c : Nat) (within : c ≤ (carried pids).length) :
      Nat.count (Due pids pid) c = ((carried pids).take c).countP (· % 8192 == pid) := by
    induction c with
    | zero => rfl
    | succ c ih =>
      have inside : c < (carried pids).length := within
      have here : (turn pids c).1 = (carried pids)[c] := by
        simp [turn, Nat.mod_eq_of_lt inside, inside]
      rw [Nat.count_succ, ih (Nat.le_of_lt inside), ← List.take_append_getElem inside,
        List.countP_append]
      simp [Due, here, List.countP_cons]
  rw [front _ (Nat.le_refl _), List.take_length, share]

theorem count_due_round (pids : List Nat) (pid k : Nat) :
    Nat.count (Due pids pid) (k + (carried pids).length) =
      Nat.count (Due pids pid) k + share pids pid := by
  rw [Nat.count_add', count_due_length]
  simp only [due_round]

theorem count_due (pids : List Nat) (pid k : Nat) :
    Nat.count (Due pids pid) k =
      k / (carried pids).length * share pids pid +
        Nat.count (Due pids pid) (k % (carried pids).length) := by
  -- By induction on the number of whole rounds, each of which brings its share.
  have rounds (q c : Nat) : Nat.count (Due pids pid) (q * (carried pids).length + c) =
      q * share pids pid + Nat.count (Due pids pid) c := by
    induction q with
    | zero => simp
    | succ q ih =>
      have one : (q + 1) * (carried pids).length + c =
          q * (carried pids).length + c + (carried pids).length := by
        rw [Nat.succ_mul]
        omega
      rw [one, count_due_round, ih, Nat.succ_mul]
      omega
  have split := rounds (k / (carried pids).length) (k % (carried pids).length)
  rwa [Nat.mul_comm, Nat.div_add_mod] at split

theorem count_due_absent (absent : share pids pid = 0) (k : Nat) :
    Nat.count (Due pids pid) k = 0 := by
  have inside : k % (carried pids).length ≤ (carried pids).length :=
    Nat.le_of_lt (Nat.mod_lt k (carried_pos pids))
  have fewer := Nat.count_monotone (Due pids pid) inside
  rw [count_due_length, absent] at fewer
  rw [count_due, absent, Nat.mul_zero, Nat.zero_add]
  exact Nat.le_zero.1 fewer

theorem Due.round_eq (due : Due pids pid k) :
    k / (carried pids).length = Nat.count (Due pids pid) k / share pids pid := by
  have positive := carried_pos pids
  have now : Due pids pid (k % (carried pids).length) := by
    rwa [Due, turn, Nat.mod_mod]
  -- It is not the last of its round that went by, being due itself.
  have fewer : Nat.count (Due pids pid) (k % (carried pids).length) < share pids pid := by
    rw [← count_due_length]
    exact Nat.count_strict_mono now (Nat.mod_lt _ positive)
  rw [count_due pids pid k, Nat.mul_comm, Nat.mul_add_div (by omega), Nat.div_eq_of_lt fewer,
    Nat.add_zero]

theorem head?_packet (pids : List Nat) (k : Nat) : (packet pids k).head? = some syncByte :=
  rfl

theorem pid?_packet (pids : List Nat) (k : Nat) :
    pid? (packet pids k) = some ((turn pids k).1 % 8192) := by
  have plain := pid?_make (turn pids k).1 (turn pids k).2 []
  rwa [List.append_nil] at plain

theorem sequence_eq_flatten (pids : List Nat) (count : Nat) :
    sequence pids count = ((List.range count).map (packet pids)).flatten :=
  List.flatMap_def ..

theorem drop_sequence (pids : List Nat) {count : Nat} (earlier : k < count) :
    ∃ rest, (sequence pids count).drop (k * size) = packet pids k ++ rest := by
  induction count with
  | zero => cases earlier
  | succ count ih =>
    have inside : k * size ≤ (sequence pids count).length := by
      rw [length_sequence]
      exact Nat.mul_le_mul_right size (Nat.le_of_lt_succ earlier)
    rw [sequence_succ, List.drop_append_of_le_length inside]
    obtain before | rfl := Nat.lt_succ_iff_lt_or_eq.1 earlier
    next =>
      obtain ⟨rest, cut⟩ := ih before
      exact ⟨rest ++ packet pids count, by rw [cut, List.append_assoc]⟩
    next =>
      have all : (sequence pids k).drop (k * size) = [] := by
        rw [← length_sequence pids k, List.drop_length]
      exact ⟨[], by rw [all, List.append_nil, List.nil_append]⟩

theorem occurrences_sequence (pids : List Nat) (pid count : Nat) :
    occurrences pid (sequence pids count) = Nat.count (Due pids pid) count := by
  have blocks : (sequence pids count).length / size = count := by
    rw [length_sequence]
    exact Nat.mul_div_cancel count (by decide)
  have same (k : Nat) (earlier : k < count) :
      pid? ((sequence pids count).drop (k * size)) = some pid ↔ Due pids pid k := by
    obtain ⟨rest, cut⟩ := drop_sequence pids earlier
    rw [cut, packet, pid?_make, Option.some.injEq, Due]
  rw [occurrences, blocks]
  exact Nat.le_antisymm (Nat.count_mono_left fun k earlier => (same k earlier).1)
    (Nat.count_mono_left fun k earlier => (same k earlier).2)

end DvbReceiver.Packet
