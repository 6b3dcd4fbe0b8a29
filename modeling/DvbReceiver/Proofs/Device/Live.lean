import DvbReceiver.Proofs.Device.Standing

set_option autoImplicit false

namespace DvbReceiver.Device

def feedCount (d : Device) (adapter : Nat) : Nat :=
  ((d.adapters[adapter]?).map (·.feeds.count)).getD 0

def hasFrontend (d : Device) (adapter slot : Nat) : Bool :=
  (d.adapters[adapter]?).any (·.isRegistered slot)

def streams (d : Device) (adapter : Nat) : Bool :=
  (d.adapters[adapter]?).any (·.feeds.streaming.isSome)

variable {h₀ h h' : Host} {adapters : List Adapter} {r : Nat → List UrbIdentity} {d d' : Device}
  {i : Nat} {a a' : Adapter}

namespace Live

theorem set (live : Live h₀ h adapters r) (there : adapters[i]? = some a)
    (moved : Adapter.Moved h a r h' a' r) (steered : a'.Steered) :
    Live h₀ h' (adapters.set i a') r := by
  obtain ⟨within, here⟩ := List.getElem?_eq_some_iff.1 there
  have member : a ∈ adapters := List.mem_of_getElem? there
  have number := live.ids i a there
  -- Whoever is among the adapters now is the new one, or was there at another number.
  have cases {b : Adapter} (present : b ∈ adapters.set i a') :
      b = a' ∨ b ∈ adapters ∧ a.id ≠ b.id := by
    obtain ⟨j, at_j⟩ := List.getElem?_of_mem present
    obtain ⟨-, new⟩ | ⟨other, before⟩ := getElem?_set_cases at_j
    next => exact .inl new
    next =>
      have different := live.ids j b before
      exact .inr ⟨List.mem_of_getElem? before, by omega⟩
  have spared {b : Adapter} (before : b ∈ adapters) (different : a.id ≠ b.id) :
      b.Sound r h'.bus.queue :=
    moved.spared (live.sound a member) (live.sound b before) different
  exact
    { size := by simpa using live.size
      ids := fun j b present => by
        obtain ⟨rfl, rfl⟩ | ⟨-, before⟩ := getElem?_set_cases present
        next => exact moved.id.trans number
        next => exact live.ids j b before
      sound := fun b present => by
        obtain rfl | ⟨before, different⟩ := cases present
        next => exact moved.sound
        next => exact spared before different
      strays := fun n known foreign => by
        have still : ¬ a.Owns n := fun owned =>
          foreign a' (List.mem_set within a') ((moved.owns n).2 owned)
        -- Whatever belongs to none of the adapters now belonged to none of them before.
        refine moved.deserted still (live.strays n known fun b before owned => ?_)
        by_cases same : b = a
        · exact still (same ▸ owned)
        · obtain ⟨j, inside, rfl⟩ := List.getElem_of_mem before
          have other : i ≠ j := fun equal => same (by subst equal; exact here)
          exact foreign _ (List.mem_iff_getElem?.2
            ⟨j, by rw [List.getElem?_set_ne other, List.getElem?_eq_getElem inside]⟩) owned
      ledger := by
        -- The adapter holds the same places as before, so that the ledger is that of the buffers.
        have places := map_set_of_eq there moved.places
        have demods := map_set_of_eq there moved.demods
        rw [List.flatMap_def, List.flatMap_def, List.map_reverse, List.map_reverse, places, demods,
          ← List.map_reverse, ← List.map_reverse, ← List.flatMap_def, ← List.flatMap_def]
        exact live.ledger.exchange moved.exchange
      ready := fun b present => by
        obtain rfl | ⟨before, -⟩ := cases present
        next => exact moved.ready (live.ready a member)
        next => exact live.ready b before
      steered := fun b present => by
        obtain rfl | ⟨before, -⟩ := cases present
        next => exact steered
        next => exact live.steered b before }

theorem elsewhere (live : Live h₀ h adapters r) (steady : h.Steady h')
    (same : ∀ n ∈ streamIds, ofStream n h'.bus.queue = ofStream n h.bus.queue) :
    Live h₀ h' adapters r :=
  { live with
    sound := fun a there => (live.sound a there).spared fun n owned =>
      ⟨same n ((live.sound a there).owned_known owned), rfl⟩
    strays := fun n known foreign => by
      obtain ⟨none, idle⟩ := live.strays n known foreign
      exact ⟨none, (same n known).trans idle⟩
    ledger := live.ledger.steady steady }

end Live

/-- What is done with a live device leaves it alive, with the frontends that it has. Each adapter
then has as many feeds as `counts` says. -/
structure Tended (h₀ : Host) (d : Device) (rosters : Nat → List UrbIdentity) (counts : Nat → Nat)
    (h' : Host) (d' : Device) : Prop where
  live : Live h₀ h' d'.adapters rosters
  phase : d'.phase = d.phase
  length : d'.adapters.length = d.adapters.length
  frontends : ∀ adapter slot, d'.hasFrontend adapter slot = d.hasFrontend adapter slot
  feeds : d'.feedCount = counts

namespace Tended

theorem refl (live : Live h₀ h d.adapters r) : Tended h₀ d r d.feedCount h d where
  live := live
  phase := rfl
  length := rfl
  frontends _ _ := rfl
  feeds := rfl

theorem trans {h₂ : Host} {d₂ : Device}
    (first : Tended h₀ d r d.feedCount h' d') (second : Tended h₀ d' r d'.feedCount h₂ d₂) :
    Tended h₀ d r d.feedCount h₂ d₂ where
  live := second.live
  phase := second.phase.trans first.phase
  length := second.length.trans first.length
  frontends adapter slot := (second.frontends adapter slot).trans (first.frontends adapter slot)
  feeds := second.feeds.trans first.feeds

end Tended

theorem tended_steady (live : Live h₀ h d.adapters r) (steady : h.Steady h')
    (bus : h'.bus = h.bus) (power : PowerRail) :
    Tended h₀ d r d.feedCount h' { d with power } where
  live := live.elsewhere steady fun _ _ => by rw [bus]
  phase := rfl
  length := rfl
  frontends _ _ := rfl
  feeds := rfl

theorem tended_set (live : Live h₀ h d.adapters r) (there : d.adapters[i]? = some a)
    (moved : Adapter.Moved h a r h' a' r) (steered : a'.Steered) :
    Tended h₀ d r (Function.update d.feedCount i a'.feeds.count) h'
      { d with adapters := d.adapters.set i a' } where
  live := live.set there moved steered
  phase := rfl
  length := List.length_set
  frontends adapter slot := by
    have within := (List.getElem?_eq_some_iff.1 there).1
    unfold hasFrontend
    by_cases here : i = adapter
    · subst here
      rw [List.getElem?_set_self within, there, Option.any_some, Option.any_some]
      exact moved.isRegistered slot
    · rw [List.getElem?_set_ne here]
  feeds := by
    funext adapter
    have within := (List.getElem?_eq_some_iff.1 there).1
    unfold feedCount
    by_cases here : i = adapter
    · subst here
      simp [within]
    · rw [List.getElem?_set_ne here, Function.update_of_ne (Ne.symm here)]

theorem onAdapter_missing {α : Type} (h : Host) (missing : d.adapters[i]? = none) (fallback : α)
    (work : Host → Adapter → α × Host × Adapter) :
    onAdapter h d i fallback work = (fallback, h, d) := by
  simp [onAdapter, missing]

theorem onAdapter_some {α : Type} (h : Host) (there : d.adapters[i]? = some a) (fallback : α)
    (work : Host → Adapter → α × Host × Adapter) :
    onAdapter h d i fallback work =
      ((work h a).1, (work h a).2.1, { d with adapters := d.adapters.set i (work h a).2.2 }) := by
  simp [onAdapter, there]

theorem feedCount_some (there : d.adapters[i]? = some a) : d.feedCount i = a.feeds.count := by
  simp [feedCount, there]

theorem feedCount_none (missing : d.adapters[i]? = none) : d.feedCount i = 0 := by
  simp [feedCount, missing]

theorem streams_some (there : d.adapters[i]? = some a) :
    d.streams i = a.feeds.streaming.isSome := by
  simp [streams, there]

theorem streams_set (there : d.adapters[i]? = some a) :
    ({ d with adapters := d.adapters.set i a' } : Device).streams =
      Function.update d.streams i a'.feeds.streaming.isSome := by
  have within := (List.getElem?_eq_some_iff.1 there).1
  funext j
  unfold streams
  by_cases here : i = j
  · subst here
    simp [within]
  · rw [List.getElem?_set_ne here, Function.update_of_ne (Ne.symm here)]

theorem startFeed_spec (live : Live h₀ h d.adapters r) (i : Nat) (feed : Feed) :
    Tended h₀ d r
      (Function.update d.feedCount i (d.feedCount i + (startFeed h d i feed).1.isOk.toNat))
      (startFeed h d i feed).2.1 (startFeed h d i feed).2.2 := by
  unfold startFeed
  cases there : d.adapters[i]? with
  | none =>
    rw [onAdapter_missing h there]
    have same : d.feedCount i + (Except.error (.noAdapter i) : Except Failure Unit).isOk.toNat =
        d.feedCount i := rfl
    rw [same, Function.update_eq_self]
    exact Tended.refl live
  | some a =>
    have member := List.mem_of_getElem? there
    obtain ⟨moved, steered, count⟩ := Adapter.startFeed_spec (live.sound a member)
      (live.ready a member) (live.steered a member) feed
    rw [onAdapter_some h there, feedCount_some there, ← count]
    exact tended_set live there moved steered

theorem stopFeed_spec (live : Live h₀ h d.adapters r) (i : Nat) (feed : Feed) :
    Tended h₀ d r (Function.update d.feedCount i (d.feedCount i - 1))
      (stopFeed h d i feed).2.1 (stopFeed h d i feed).2.2 := by
  unfold stopFeed
  cases there : d.adapters[i]? with
  | none =>
    have same : d.feedCount i - 1 = d.feedCount i := by rw [feedCount_none there]
    rw [onAdapter_missing h there, same, Function.update_eq_self]
    exact Tended.refl live
  | some a =>
    have member := List.mem_of_getElem? there
    obtain ⟨moved, steered, count⟩ :=
      Adapter.stopFeed_spec (live.sound a member) (live.steered a member) feed
    rw [onAdapter_some h there, feedCount_some there, ← count]
    exact tended_set live there moved steered

theorem Live.owner (live : Live h₀ h adapters r) {u : Urb} (queued : u ∈ h.bus.queue)
    (known : u.key.stream ∈ streamIds) :
    ∃ a, adapters[u.key.stream / maxFrontends]? = some a ∧
      u.key.stream % maxFrontends < a.slots.length ∧
      u.key.stream = Adapter.streamId a.id (u.key.stream % maxFrontends) := by
  have owned : ∃ a ∈ adapters, a.Owns u.key.stream := by
    -- Streams that no adapter has are deserted, and this one has a request in the queue.
    by_contra foreign
    push Not at foreign
    obtain ⟨-, idle⟩ := live.strays _ known foreign
    exact ofStream_eq_nil_iff.1 idle u queued rfl
  obtain ⟨a, member, owned⟩ := owned
  have sound := live.sound a member
  have number := sound.number owned
  obtain ⟨slot, within, own⟩ := owned
  have position : u.key.stream % maxFrontends = slot := by
    have size := sound.size
    unfold Adapter.streamId maxFrontends at *
    omega
  rw [position]
  refine ⟨a, ?_, within, own⟩
  obtain ⟨i, inside, rfl⟩ := List.getElem_of_mem member
  have there := List.getElem?_eq_getElem inside
  rwa [number, live.ids i _ there]

theorem missing_of_unknown (live : Live h₀ h adapters r) {n : Nat} (unknown : n ∉ streamIds) :
    adapters[n / maxFrontends]? = none := by
  refine List.getElem?_eq_none (Nat.le_trans live.size ?_)
  simp only [streamIds, List.mem_range, maxAdapters, maxFrontends] at *
  omega

theorem complete_spec (live : Live h₀ h d.adapters r) {u : Urb} {queue : List Urb}
    (removed : Removed h.bus.queue u queue) (fill : Fill) :
    Tended h₀ d r d.feedCount
      (complete { h with bus := { h.bus with queue } } d (u.fill fill)).1
      (complete { h with bus := { h.bus with queue } } d (u.fill fill)).2 := by
  have key : (u.fill fill).key = u.key := u.key_fill fill
  unfold complete
  rw [key]
  by_cases known : u.key.stream ∈ streamIds
  · obtain ⟨a, index, within, own⟩ := live.owner removed.mem known
    have member := List.mem_of_getElem? index
    obtain ⟨worked, runs⟩ :=
      Adapter.worked_complete (live.sound a member) within removed own fill
    rw [onAdapter_some _ index]
    have tended := tended_set live index worked.toMoved
      (worked.steered runs (live.steered a member))
    rwa [worked.feeds, ← feedCount_some index, Function.update_eq_self] at tended
  · -- A request of somebody else's, for which there is no adapter.
    rw [onAdapter_missing _ (missing_of_unknown live known)]
    have steady : h.Steady { h with bus := { h.bus with queue } } := Host.steady_bus rfl rfl rfl rfl
    exact Tended.refl (live.elsewhere steady fun n member => removed.ofStream_eq fun same =>
      known (same ▸ member))

theorem select_ok {slot : Nat} (selected : d.select i slot = .ok d') :
    ∃ a, d.adapters[i]? = some a ∧ a.select slot = .ok { a with
        feeds := { a.feeds with active := some slot } } ∧
      d' = { d with adapters := d.adapters.set i { a with
        feeds := { a.feeds with active := some slot } } } := by
  unfold select at selected
  split at selected
  next => cases selected
  next a there =>
    split at selected
    next => cases selected
    next a' chosen =>
      cases selected
      have same : a' = { a with feeds := { a.feeds with active := some slot } } := by
        unfold Adapter.select at chosen
        split at chosen
        next => cases chosen
        next => exact (Except.ok.inj chosen).symm
      subst same
      exact ⟨a, there, chosen, rfl⟩

end DvbReceiver.Device
