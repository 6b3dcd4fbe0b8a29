import DvbReceiver.Adapter
import DvbReceiver.Proofs.Stream.Provision
import Mathlib.Logic.Function.Basic

set_option autoImplicit false

namespace DvbReceiver

section Lists

variable {α β : Type} {l : List α} {i j : Nat} {x y : α}

theorem getElem?_set_cases (there : (l.set i x)[j]? = some y) :
    (j = i ∧ y = x) ∨ (j ≠ i ∧ l[j]? = some y) := by
  by_cases here : i = j
  · subst here
    have within := (List.getElem?_eq_some_iff.1 there).1
    rw [List.length_set] at within
    rw [List.getElem?_set_self within, Option.some.injEq] at there
    exact .inl ⟨rfl, there.symm⟩
  · rw [List.getElem?_set_ne here] at there
    exact .inr ⟨Ne.symm here, there⟩

theorem map_set_of_eq {f : α → β} (there : l[i]? = some x) (same : f y = f x) :
    (l.set i y).map f = l.map f := by
  obtain ⟨within, rfl⟩ := List.getElem?_eq_some_iff.1 there
  rw [List.map_set, same, ← List.getElem_map f (h := by simpa using within),
    List.set_getElem_self]

end Lists

def streamIds : List Nat :=
  List.range (maxAdapters * maxFrontends)

theorem ofStream_nil_of_unused {queue : List Urb}
    (unused : ∀ u ∈ queue, u.key.stream ∉ streamIds) {n : Nat} (known : n ∈ streamIds) :
    ofStream n queue = [] :=
  ofStream_eq_nil_iff.2 fun u queued same => unused u queued (same ▸ known)

def held (rosters : Nat → List UrbIdentity) : List Nat :=
  streamIds.flatMap fun n => addresses (rosters n)

theorem held_perm (rosters : Nat → List UrbIdentity) {n : Nat} (known : n ∈ streamIds) :
    (held rosters).Perm
      (addresses (rosters n) ++ (streamIds.erase n).flatMap fun k => addresses (rosters k)) :=
  (List.perm_cons_erase known).flatMap_right _

namespace Host.Exchange

variable {h h' : Host} {before after : List Nat}

theorem of_perm {before' after' : List Nat} (e : Exchange h h' before after)
    (sameBefore : before.Perm before') (sameAfter : after.Perm after') :
    Exchange h h' before' after' :=
  { e with
    memory := by
      obtain ⟨got, given, allocated, freed, balance⟩ := e.memory
      refine ⟨got, given, allocated, freed, ?_⟩
      exact ((sameBefore.symm.append_left got).trans balance).trans (sameAfter.append_left given) }

theorem frame (e : Exchange h h' before after) (rest : List Nat) :
    Exchange h h' (before ++ rest) (after ++ rest) :=
  { e with
    memory := by
      obtain ⟨got, given, allocated, freed, balance⟩ := e.memory
      refine ⟨got, given, allocated, freed, ?_⟩
      rw [← List.append_assoc, ← List.append_assoc]
      exact balance.append_right rest }

theorem update {rosters : Nat → List UrbIdentity} {n : Nat} {roster : List UrbIdentity}
    (e : Exchange h h' (addresses (rosters n)) (addresses roster)) (known : n ∈ streamIds) :
    Exchange h h' (held rosters) (held (Function.update rosters n roster)) := by
  -- The stream's own buffers first, then all the others, which stay as they are.
  refine (e.frame _).of_perm (held_perm rosters known).symm ?_
  refine List.Perm.trans ?_ (held_perm _ known).symm
  rw [Function.update_self]
  refine List.Perm.append_left _ (List.Perm.of_eq (List.flatMap_congr fun k other => ?_))
  have different : k ≠ n := ((List.nodup_range.mem_erase_iff).1 other).1
  rw [Function.update_of_ne different]

end Host.Exchange

def Slot.plan (s : Slot) : SlotProperties × Filtering × Option Frontend :=
  (s.props, s.filtering, s.frontend)

namespace Adapter

theorem streamId_known {adapter slot : Nat} (adapterKnown : adapter < maxAdapters)
    (slotKnown : slot < maxFrontends) : streamId adapter slot ∈ streamIds := by
  simp only [streamIds, streamId, List.mem_range, maxAdapters, maxFrontends] at *
  omega

theorem streamId_inj {adapter slot slot' : Nat}
    (same : streamId adapter slot = streamId adapter slot') : slot = slot' := by
  unfold streamId at same
  omega

/-- The streams of an adapter between two operations. -/
structure Sound (a : Adapter) (rosters : Nat → List UrbIdentity) (queue : List Urb) : Prop where
  known : a.id < maxAdapters
  size : a.slots.length ≤ maxFrontends
  ids : ∀ (j : Nat) (s : Slot), a.slots[j]? = some s → s.stream.id = streamId a.id j
  streams : ∀ (j : Nat) (s : Slot), a.slots[j]? = some s →
    s.stream.Sound (rosters (streamId a.id j)) queue

def Owns (a : Adapter) (stream : Nat) : Prop :=
  ∃ j < a.slots.length, stream = streamId a.id j

theorem Sound.number {a : Adapter} {rosters : Nat → List UrbIdentity} {queue : List Urb}
    (sound : a.Sound rosters queue) {n : Nat} (owned : a.Owns n) : n / maxFrontends = a.id := by
  obtain ⟨j, within, rfl⟩ := owned
  have size := sound.size
  unfold streamId maxFrontends at *
  omega

def runs (a : Adapter) (slot : Nat) : Bool :=
  (a.slots[slot]?).any (·.stream.isRunning)

/-- Whoever worked on the adapter left the streams of others alone. -/
structure Confined (h : Host) (a : Adapter) (rosters : Nat → List UrbIdentity)
    (h' : Host) (a' : Adapter) (rosters' : Nat → List UrbIdentity) : Prop where
  foreign : ∀ n, ¬ a.Owns n →
    ofStream n h'.bus.queue = ofStream n h.bus.queue ∧ rosters' n = rosters n
  id : a'.id = a.id
  length : a'.slots.length = a.slots.length
  sound : a'.Sound rosters' h'.bus.queue

structure Moved (h : Host) (a : Adapter) (rosters : Nat → List UrbIdentity)
    (h' : Host) (a' : Adapter) (rosters' : Nat → List UrbIdentity) : Prop
    extends Confined h a rosters h' a' rosters' where
  exchange : h.Exchange h' (held rosters) (held rosters')
  plan : a'.slots.map Slot.plan = a.slots.map Slot.plan
  registered : a'.registered = a.registered

structure Worked (h : Host) (a : Adapter) (rosters : Nat → List UrbIdentity)
    (h' : Host) (a' : Adapter) (rosters' : Nat → List UrbIdentity) : Prop
    extends Moved h a rosters h' a' rosters' where
  feeds : a'.feeds = a.feeds
  gate : a'.gate = a.gate

section Relations

variable {h h₁ h₂ h₃ : Host} {a a₁ a₂ a₃ : Adapter} {r r₁ r₂ r₃ : Nat → List UrbIdentity}

theorem Confined.refl (sound : a.Sound r h.bus.queue) : Confined h a r h a r where
  foreign _ _ := ⟨rfl, rfl⟩
  id := rfl
  length := rfl
  sound := sound

theorem Confined.owns (confined : Confined h₁ a₁ r₁ h₂ a₂ r₂) (n : Nat) :
    a₂.Owns n ↔ a₁.Owns n := by
  unfold Owns
  rw [confined.length, confined.id]

theorem Confined.trans (first : Confined h₁ a₁ r₁ h₂ a₂ r₂) (second : Confined h₂ a₂ r₂ h₃ a₃ r₃) :
    Confined h₁ a₁ r₁ h₃ a₃ r₃ where
  foreign n other := by
    have earlier := first.foreign n other
    have later := second.foreign n (fun owned => other ((first.owns n).1 owned))
    exact ⟨later.1.trans earlier.1, later.2.trans earlier.2⟩
  id := second.id.trans first.id
  length := second.length.trans first.length
  sound := second.sound

theorem Confined.of_bus (sound : a.Sound r h.bus.queue) (bus : h₁.bus = h.bus) :
    Confined h a r h₁ a r where
  foreign _ _ := ⟨by rw [bus], rfl⟩
  id := rfl
  length := rfl
  sound := by rwa [bus]

theorem Moved.refl (sound : a.Sound r h.bus.queue) : Moved h a r h a r :=
  { Confined.refl sound with
    exchange := (Host.Steady.refl h).exchange _
    plan := rfl
    registered := rfl }

theorem Moved.trans (first : Moved h₁ a₁ r₁ h₂ a₂ r₂) (second : Moved h₂ a₂ r₂ h₃ a₃ r₃) :
    Moved h₁ a₁ r₁ h₃ a₃ r₃ :=
  { first.toConfined.trans second.toConfined with
    exchange := first.exchange.trans second.exchange
    plan := second.plan.trans first.plan
    registered := second.registered.trans first.registered }

theorem Worked.refl (sound : a.Sound r h.bus.queue) : Worked h a r h a r :=
  { Moved.refl sound with feeds := rfl, gate := rfl }

theorem Worked.trans (first : Worked h₁ a₁ r₁ h₂ a₂ r₂) (second : Worked h₂ a₂ r₂ h₃ a₃ r₃) :
    Worked h₁ a₁ r₁ h₃ a₃ r₃ :=
  { first.toMoved.trans second.toMoved with
    feeds := second.feeds.trans first.feeds
    gate := second.gate.trans first.gate }

theorem Worked.perform (worked : Worked h₁ a₁ r₁ h₂ a₂ r₂) (hook : Hook)
    (other : hook.isDetach = false) : Worked h₁ a₁ r₁ (h₂.perform hook).2 a₂ r₂ :=
  { worked with
    exchange := worked.exchange.trans ((Host.steady_perform h₂ hook other).exchange _) }

end Relations

section OnStream

variable {α : Type} {h before : Host} {a : Adapter} {r : Nat → List UrbIdentity} {slot : Nat}
  {s : Slot} {roster : List UrbIdentity}

theorem offer_cases (h : Host) (a : Adapter) (slices : List Bytes) :
    ∃ demux, (offer h a slices).2 = { a with demux } ∧ h.Steady (offer h a slices).1 ∧
      (offer h a slices).1.bus = h.bus := by
  unfold offer
  split
  next => exact ⟨a.demux, rfl, Host.Steady.refl h, rfl⟩
  next demux _ =>
    split
    next => exact ⟨a.demux, rfl, Host.Steady.refl h, rfl⟩
    next =>
      refine ⟨_, rfl, Host.steady_noteAll h ?_, Host.bus_noteAll h _⟩
      simp [Event.demodMark?]

theorem onStream_missing (h : Host) (missing : a.slots[slot]? = none) (fallback : α)
    (work : Flow → α × Flow) : onStream h a slot fallback work = (fallback, h, a) := by
  simp [onStream, missing]

theorem onStream_cases (h : Host) (there : a.slots[slot]? = some s) (fallback : α)
    (work : Flow → α × Flow) :
    ∃ h' demux, onStream h a slot fallback work =
        ((work { host := h, stream := s.stream }).1, h',
          { a with
            slots := a.slots.set slot
              { s with stream := (work { host := h, stream := s.stream }).2.stream }
            demux }) ∧
      (work { host := h, stream := s.stream }).2.host.Steady h' ∧
      h'.bus = (work { host := h, stream := s.stream }).2.host.bus := by
  let f := (work { host := h, stream := s.stream }).2
  obtain ⟨demux, same, steady, bus⟩ :=
    offer_cases f.host { a with slots := a.slots.set slot { s with stream := f.stream } } f.slices
  refine ⟨_, demux, ?_, steady, bus⟩
  simp only [onStream, there]
  rw [← same]

theorem onStream_fst (h : Host) (there : a.slots[slot]? = some s) (fallback : α)
    (work : Flow → α × Flow) :
    (onStream h a slot fallback work).1 = (work { host := h, stream := s.stream }).1 := by
  obtain ⟨h', demux, same, -, -⟩ := onStream_cases h there fallback work
  rw [same]

theorem worked_onStream (sound : a.Sound r before.bus.queue) (there : a.slots[slot]? = some s)
    (fallback : α) (work : Flow → α × Flow)
    (step : Flow.Step { host := before, stream := s.stream } (r (streamId a.id slot))
      (work { host := h, stream := s.stream }).2 roster) :
    Worked before a r (onStream h a slot fallback work).2.1 (onStream h a slot fallback work).2.2
      (Function.update r (streamId a.id slot) roster) := by
  -- What the stream delivered goes on to the demux, which is of no concern to the bus.
  obtain ⟨h', demux, same, steady, bus⟩ := onStream_cases h there fallback work
  have within : slot < a.slots.length := (List.getElem?_eq_some_iff.1 there).1
  have known := streamId_known sound.known (Nat.lt_of_lt_of_le within sound.size)
  have id := sound.ids slot s there
  have others {n : Nat} (different : n ≠ streamId a.id slot) :
      ofStream n h'.bus.queue = ofStream n before.bus.queue := by
    rw [bus]
    refine ofStream_eq_of_ofOthers step.others ?_
    rw [id]
    exact different
  rw [same]
  exact
    { exchange := by
        have exchange := step.exchange.trans (steady.exchange (addresses roster))
        exact Host.Exchange.update exchange known
      foreign := fun n other => by
        have different : n ≠ streamId a.id slot := fun here => other ⟨slot, within, here⟩
        exact ⟨others different, Function.update_of_ne different ..⟩
      id := rfl
      length := by simp
      plan := map_set_of_eq there rfl
      registered := rfl
      sound :=
        { known := sound.known
          size := by simpa using sound.size
          ids := fun j s' there' => by
            obtain ⟨rfl, rfl⟩ | ⟨-, before⟩ := getElem?_set_cases there'
            next => exact step.id.trans id
            next => exact sound.ids j s' before
          streams := fun j s' there' => by
            obtain ⟨rfl, rfl⟩ | ⟨here, there'⟩ := getElem?_set_cases there'
            next =>
              rw [Function.update_self, bus]
              exact step.sound
            next =>
              have different : streamId a.id j ≠ streamId a.id slot :=
                fun same => here (streamId_inj same)
              rw [Function.update_of_ne different]
              refine (sound.streams j s' there').of_ofStream_eq ?_
              rw [sound.ids j s' there']
              exact others different }
      feeds := rfl
      gate := rfl }

end OnStream

end Adapter

end DvbReceiver
