set_option autoImplicit false

namespace DvbReceiver.Increasing

def insert (n : Nat) : List Nat → List Nat
  | [] => [n]
  | m :: rest =>
    if n < m then n :: m :: rest
    else if n = m then m :: rest
    else m :: insert n rest

theorem mem_insert (k n : Nat) (numbers : List Nat) :
    k ∈ insert n numbers ↔ k = n ∨ k ∈ numbers := by
  induction numbers with
  | nil => simp [insert]
  | cons m rest ih =>
    unfold insert
    split
    next => simp
    next =>
      split
      next same => simp [same]
      next => simp [ih, or_left_comm]

theorem pairwise_insert (n : Nat) (numbers : List Nat)
    (increasing : numbers.Pairwise (· < ·)) : (insert n numbers).Pairwise (· < ·) := by
  induction numbers with
  | nil => simp [insert]
  | cons m rest ih =>
    have above := (List.pairwise_cons.1 increasing).1
    have tail := (List.pairwise_cons.1 increasing).2
    unfold insert
    split
    next below =>
      refine List.pairwise_cons.2 ⟨fun k present => ?_, increasing⟩
      cases List.mem_cons.1 present with
      | inl same => omega
      | inr later =>
        have := above k later
        omega
    next =>
      split
      next => exact increasing
      next =>
        refine List.pairwise_cons.2 ⟨fun k present => ?_, ih tail⟩
        cases (mem_insert k n rest).1 present with
        | inl same => omega
        | inr later => exact above k later

end DvbReceiver.Increasing
