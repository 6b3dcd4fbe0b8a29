set_option autoImplicit false

namespace DvbReceiver

/-- What a machine word keeps of a sum or a product that was not checked for an overflow. -/
def word (n : Nat) : Nat :=
  n % UInt64.size

theorem word_of_lt {n : Nat} (small : n < UInt64.size) : word n = n :=
  Nat.mod_eq_of_lt small

theorem word_le (n : Nat) : word n ≤ n :=
  Nat.mod_le n UInt64.size

/-- Bytes that a process can address; nothing as large as that can be had. -/
def addressSpace : Nat := 0x800000000000

def pageSize : Nat := 4096

/-- Rounded up to pages, a larger size is beyond a word. -/
def maxBufferSize : Nat := UInt64.size - pageSize

/-- Bytes that no list is as long as. -/
def listSpace : Nat := 0x8000000000000000

/-- How a program goes down over a list that there is no room for: with a panic where the list is
longer than any can be, at once where memory is lacking. -/
inductive Crash where
  | capacity
  | memory (bytes : Nat)
  deriving DecidableEq, Repr

def reserve (count entryBytes : Nat) : Except Crash Unit :=
  let bytes := count * entryBytes
  if listSpace ≤ bytes then .error .capacity
  else if addressSpace ≤ bytes then .error (.memory bytes)
  else .ok ()

theorem reserve_eq_ok_iff {count entryBytes : Nat} :
    reserve count entryBytes = .ok () ↔ count * entryBytes < addressSpace := by
  have beyond : addressSpace < listSpace := by decide
  unfold reserve
  dsimp only
  split
  next => exact ⟨nofun, fun small => by omega⟩
  next =>
    split
    next => exact ⟨nofun, fun small => by omega⟩
    next small => exact ⟨fun _ => Nat.lt_of_not_le small, fun _ => rfl⟩

end DvbReceiver
