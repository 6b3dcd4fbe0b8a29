set_option autoImplicit false

namespace DvbReceiver

inductive PowerState where
  | off
  | on
  deriving DecidableEq, Repr

structure PowerRail where
  users : Nat := 0
  deriving DecidableEq, Repr

namespace PowerRail

def state (r : PowerRail) : PowerState :=
  if 0 < r.users then .on else .off

/-- The first part tells whether the switch has to be thrown, and which way. -/
def acquire (r : PowerRail) : Option PowerState × PowerRail :=
  (if r.users = 0 then some .on else none, ⟨r.users + 1⟩)

def release (r : PowerRail) : Option PowerState × PowerRail :=
  (if r.users = 1 then some .off else none, ⟨r.users - 1⟩)

/-- The switch is thrown exactly when the state changes. -/
theorem acquire_fst (r : PowerRail) :
    r.acquire.1 = if r.state = r.acquire.2.state then none else some r.acquire.2.state := by
  cases r with
  | mk users => cases users <;> simp [acquire, state]

theorem release_fst (r : PowerRail) :
    r.release.1 = if r.state = r.release.2.state then none else some r.release.2.state := by
  match r with
  | ⟨0⟩ => rfl
  | ⟨1⟩ => rfl
  | ⟨users + 2⟩ => simp [release, state]

theorem release_acquire (r : PowerRail) : r.acquire.2.release.2 = r := rfl

end PowerRail

end DvbReceiver
