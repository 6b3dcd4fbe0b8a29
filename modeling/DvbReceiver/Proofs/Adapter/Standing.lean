import DvbReceiver.Proofs.Adapter.Feeds
import DvbReceiver.Proofs.Ledger

set_option autoImplicit false

namespace DvbReceiver

def Registered.places (r : Registered) (id : Nat) : List Place :=
  (if r.net then [.net id] else []) ++
    ((if r.demux then [.demux id] else []) ++ if r.adapter then [.adapter id] else [])

namespace Adapter

def frontends (a : Adapter) : (count : Nat) → List Nat
  | 0 => []
  | slot + 1 => if a.isRegistered slot then slot :: a.frontends slot else a.frontends slot

def places (a : Adapter) : List Place :=
  (a.frontends a.slots.length).map (.frontend a.id) ++ a.registered.places a.id

def demods (a : Adapter) : List (Nat × Nat) :=
  (a.frontends a.slots.length).map (a.id, ·)

variable {h₀ h : Host} {a a' : Adapter} {r : Nat → List UrbIdentity} {slot : Nat}
  {placesBefore : List Place} {demodsBefore : List (Nat × Nat)}

theorem frontends_congr (count : Nat) (same : ∀ j < count, a'.isRegistered j = a.isRegistered j) :
    a'.frontends count = a.frontends count := by
  induction count with
  | zero => rfl
  | succ count ih =>
    have below := ih fun j within => same j (by omega)
    simp only [frontends, same count (by omega), below]

theorem frontends_above {count : Nat} (above : slot ≤ count)
    (vacant : ∀ j, slot ≤ j → a.isRegistered j = false) : a.frontends count = a.frontends slot := by
  induction above with
  | refl => rfl
  | step above ih => simp [frontends, vacant _ above, ih]

theorem standing_vacant (vacant : ∀ j, a.isRegistered j = false) :
    a.places = a.registered.places a.id ∧ a.demods = [] := by
  have none : a.frontends a.slots.length = [] := frontends_above (Nat.zero_le _) fun j _ => vacant j
  constructor
  · rw [places, none]
    rfl
  · rw [demods, none]
    rfl

theorem Moved.frontends {h' : Host} {r' : Nat → List UrbIdentity} (moved : Moved h a r h' a' r') :
    a'.frontends a'.slots.length = a.frontends a.slots.length := by
  rw [moved.length]
  exact frontends_congr _ fun j _ => moved.isRegistered j

theorem Moved.places {h' : Host} {r' : Nat → List UrbIdentity} (moved : Moved h a r h' a' r') :
    a'.places = a.places := by
  simp only [Adapter.places, moved.frontends, moved.id, moved.registered]

theorem Moved.demods {h' : Host} {r' : Nat → List UrbIdentity} (moved : Moved h a r h' a' r') :
    a'.demods = a.demods := by
  simp only [Adapter.demods, moved.frontends, moved.id]

section Modify

variable {f : Slot → Slot}

def modified (a : Adapter) (slot : Nat) (f : Slot → Slot) : Adapter :=
  { a with slots := a.slots.modify slot f }

theorem confined_modified (sound : a.Sound r h.bus.queue) (same : ∀ s, (f s).stream = s.stream)
    (slot : Nat) : Confined h a r h (a.modified slot f) r := by
  have stream (j : Nat) (s : Slot) (there : (a.modified slot f).slots[j]? = some s) :
      ∃ s', a.slots[j]? = some s' ∧ s.stream = s'.stream := by
    simp only [modified, List.getElem?_modify, Option.map_eq_map, Option.map_eq_some_iff] at there
    obtain ⟨s', before, rfl⟩ := there
    refine ⟨s', before, ?_⟩
    split
    next => exact same s'
    next => rfl
  exact
    { Confined.refl sound with
      length := List.length_modify ..
      sound :=
        { known := sound.known
          size := by simpa [modified] using sound.size
          ids := fun j s there => by
            obtain ⟨s', before, same⟩ := stream j s there
            rw [same]
            exact sound.ids j s' before
          streams := fun j s there => by
            obtain ⟨s', before, same⟩ := stream j s there
            rw [same]
            exact sound.streams j s' before } }

theorem runs_modified (same : ∀ s, (f s).stream = s.stream) (slot j : Nat) :
    (a.modified slot f).runs j = a.runs j := by
  simp only [runs, modified, List.getElem?_modify]
  cases a.slots[j]? with
  | none => rfl
  | some s => by_cases here : slot = j <;> simp [here, same]

theorem isRegistered_modified (slot j : Nat) :
    (a.modified slot f).isRegistered j =
      if j = slot then ((a.slots[slot]?).bind fun s => (f s).frontend).any (·.registered)
      else a.isRegistered j := by
  simp only [isRegistered, modified, List.getElem?_modify]
  by_cases here : j = slot
  · subst here
    cases a.slots[j]? <;> simp
  · cases a.slots[j]? <;> simp [here, Ne.symm here]

end Modify

theorem frontends_modified {f : Slot → Slot} (within : slot < a.slots.length)
    (vacant : ∀ j, slot ≤ j → a.isRegistered j = false)
    (registered : ∀ s, (f s).frontend.any (·.registered) = true) :
    (a.modified slot f).frontends (a.modified slot f).slots.length =
      slot :: a.frontends a.slots.length := by
  have there : a.slots[slot]? = some a.slots[slot] := List.getElem?_eq_getElem within
  have length : (a.modified slot f).slots.length = a.slots.length := List.length_modify ..
  have here : (a.modified slot f).isRegistered slot = true := by
    rw [isRegistered_modified, if_pos rfl, there]
    exact registered _
  have above (j : Nat) (beyond : slot + 1 ≤ j) : (a.modified slot f).isRegistered j = false := by
    rw [isRegistered_modified, if_neg (by omega)]
    exact vacant j (by omega)
  have below : (a.modified slot f).frontends slot = a.frontends slot :=
    frontends_congr slot fun j lower => by rw [isRegistered_modified, if_neg (by omega)]
  -- Neither list goes beyond `slot`, and below it they are the same.
  rw [length, frontends_above (by omega) above, frontends_above (Nat.le_of_lt within) vacant]
  simp only [frontends, here, below, if_true]

theorem standing_modified {f : Slot → Slot} (within : slot < a.slots.length)
    (vacant : ∀ j, slot ≤ j → a.isRegistered j = false)
    (registered : ∀ s, (f s).frontend.any (·.registered) = true) :
    (a.modified slot f).places = .frontend a.id slot :: a.places ∧
      (a.modified slot f).demods = (a.id, slot) :: a.demods := by
  have all := frontends_modified within vacant registered
  constructor
  · rw [places, all]
    rfl
  · rw [demods, all]
    rfl

end Adapter

end DvbReceiver
