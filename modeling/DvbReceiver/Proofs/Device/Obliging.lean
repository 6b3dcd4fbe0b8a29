import DvbReceiver.Proofs.Adapter.Limits
import DvbReceiver.Proofs.Adapter.Obliging
import DvbReceiver.Proofs.Device.Supply

set_option autoImplicit false

namespace DvbReceiver

namespace Device

open Adapter (Moved)

variable {h₀ h h' : Host} {d d' : Device} {r : Nat → List UrbIdentity} {filtering : Filtering}
  {size buffers i count : Nat} {a a' : Adapter}

def feedings (d : Device) : List (Nat × Option Nat) :=
  d.adapters.map fun a => (a.feeds.count, a.feeds.active)

/-- A receiver at work on a host that does whatever it is asked. Its adapters have one slot each,
all of them filtered alike, and its buffers are those that it came up with. -/
structure Serving (h₀ : Host) (r : Nat → List UrbIdentity) (filtering : Filtering)
    (size buffers : Nat) (h : Host) (d : Device) : Prop where
  live : Live h₀ h d.adapters r
  phase : d.phase = .ready
  size : d.adapters.length = size
  obliging : h.Obliging
  allocated : h.bus.allocated.length = buffers
  slots : ∀ a ∈ d.adapters, a.slots.map (·.filtering) = [filtering]
  frontends : ∀ a ∈ d.adapters, a.isRegistered 0 = true

theorem inUse_of_ready (ready : d.phase = .ready) : d.inUse = d.adapters := by
  rw [inUse, ready]
  rfl

namespace Serving

variable (serving : Serving h₀ r filtering size buffers h d)

include serving

theorem set (there : d.adapters[i]? = some a) (moved : Moved h a r h' a' r) (steered : a'.Steered)
    (steady : h.Steady h') :
    Serving h₀ r filtering size buffers h' { d with adapters := d.adapters.set i a' } ∧
      ({ d with adapters := d.adapters.set i a' } : Device).feedings =
        d.feedings.set i (a'.feeds.count, a'.feeds.active) := by
  have member := List.mem_of_getElem? there
  refine ⟨?_, List.map_set⟩
  exact
    { live := serving.live.set there moved steered
      phase := serving.phase
      size := List.length_set.trans serving.size
      obliging := steady.obliging serving.obliging
      allocated := (congrArg List.length steady.allocated).trans serving.allocated
      slots := fun b present => by
        obtain before | rfl := List.mem_or_eq_of_mem_set present
        next => exact serving.slots b before
        next => exact moved.filtering.trans (serving.slots a member)
      frontends := fun b present => by
        obtain before | rfl := List.mem_or_eq_of_mem_set present
        next => exact serving.frontends b before
        next => exact (moved.isRegistered 0).trans (serving.frontends a member) }

theorem elsewhere (steady : h.Steady h')
    (same : ∀ n ∈ streamIds, ofStream n h'.bus.queue = ofStream n h.bus.queue)
    (power : PowerRail) : Serving h₀ r filtering size buffers h' { d with power } where
  live := serving.live.elsewhere steady same
  phase := serving.phase
  size := serving.size
  obliging := steady.obliging serving.obliging
  allocated := (congrArg List.length steady.allocated).trans serving.allocated
  slots := serving.slots
  frontends := serving.frontends

theorem steady (steady : h.Steady h') (bus : h'.bus = h.bus) (power : PowerRail) :
    Serving h₀ r filtering size buffers h' { d with power } :=
  serving.elsewhere steady (fun _ _ => by rw [bus]) power

theorem perform (hook : Hook) (other : hook.isDetach = false) :
    Serving h₀ r filtering size buffers (h.perform hook).2 d :=
  serving.steady (Host.steady_perform h hook other) rfl d.power

theorem powerUp : ∃ h' power, Device.powerUp h d = (.ok (), h', { d with power }) ∧
    Serving h₀ r filtering size buffers h' { d with power } := by
  obtain ⟨h', steady, bus, ⟨e, refused⟩ | granted⟩ := powerUp_cases h d
  next =>
    unfold Device.powerUp at refused
    rw [serving.obliging.perform_eq] at refused
    split at refused
    next => cases refused
    next => cases refused
  next => exact ⟨h', _, granted, serving.steady steady bus _⟩

theorem powerDown : ∃ h' power, Device.powerDown h d = (.ok (), h', { d with power }) ∧
    Serving h₀ r filtering size buffers h' { d with power } := by
  rw [powerDown_eq, serving.obliging.perform_eq]
  dsimp only
  split
  next => exact ⟨_, _, rfl, serving.steady (Host.steady_perform h _ rfl) rfl _⟩
  next => exact ⟨_, _, rfl, serving.steady (Host.Steady.refl h) rfl _⟩

theorem inUse : d.inUse.length = size := by
  rw [inUse_of_ready serving.phase, serving.size]

theorem adapter (within : i < size) : ∃ a, d.adapters[i]? = some a := by
  rw [← serving.size] at within
  exact ⟨_, List.getElem?_eq_getElem within⟩

theorem adapter_of_feedings {active : Option Nat}
    (feeding : d.feedings[i]? = some (count, active)) :
    ∃ a s, d.adapters[i]? = some a ∧ a.feeds.count = count ∧ a.feeds.active = active ∧
      a.slots[0]? = some s ∧ s.filtering = filtering ∧ a.id = i := by
  unfold feedings at feeding
  rw [List.getElem?_map] at feeding
  obtain ⟨a, there, same⟩ := Option.map_eq_some_iff.1 feeding
  have slots := congrArg (·[0]?) (serving.slots a (List.mem_of_getElem? there))
  simp only [List.getElem?_map] at slots
  obtain ⟨s, slot, alike⟩ := Option.map_eq_some_iff.1 slots
  exact ⟨a, s, there, congrArg Prod.fst same, congrArg Prod.snd same, slot, alike,
    serving.live.ids i a there⟩

theorem wake (feeding : d.feedings[i]? = some (count, none)) :
    ∃ h' d', Device.wake h d i 0 = (.ok (), h', d') ∧
      Serving h₀ r filtering size buffers h' d' ∧
      d'.feedings = d.feedings.set i (count, some 0) := by
  obtain ⟨h₁, power, lit, serving₁⟩ := serving.powerUp
  have serving₂ := serving₁.perform (.frontendControl i 0 true) rfl
  obtain ⟨a, s, there, fed, asleep, -⟩ := serving.adapter_of_feedings feeding
  have member := List.mem_of_getElem? there
  have steered := serving.live.steered a member
  let a' : Adapter := { a with feeds := { a.feeds with active := some 0 } }
  -- Whoever streams is awake, so that nobody does.
  have idle : a.feeds.streaming = none := by
    cases busy : a.feeds.streaming with
    | none => rfl
    | some j => rw [(steered.active j busy).1] at asleep; cases asleep
  have selected : a.select 0 = .ok a' := by simp [Adapter.select, idle, a']
  obtain ⟨moved, steered', -⟩ := Adapter.select_spec (serving₂.live.sound a member) steered
    (serving.frontends a member) selected
  obtain ⟨serving₃, feedings⟩ := serving₂.set there moved steered' (Host.Steady.refl _)
  refine ⟨_, _, ?_, serving₃.perform (.demodInit i 0) rfl, ?_⟩
  · unfold Device.wake
    rw [lit]
    dsimp only
    rw [serving₁.obliging.perform_eq]
    simp only [Device.select, there, selected]
    rw [serving₃.obliging.perform_eq]
  · rw [feedings]
    exact congrArg (fun n => d.feedings.set i (n, some 0)) fed

theorem startFeed {index pid : Nat} (feeding : d.feedings[i]? = some (index, some 0))
    (valid : pid ≤ Packet.maxPid) (room : index < filtering.maxFeeds) :
    ∃ h' d', Device.startFeed h d i ⟨pid, index⟩ = (.ok (), h', d') ∧
      Serving h₀ r filtering size buffers h' d' ∧
      d'.feedings = d.feedings.set i (index + 1, some 0) := by
  obtain ⟨a, s, there, fed, awake, slot, rfl, -⟩ := serving.adapter_of_feedings feeding
  have member := List.mem_of_getElem? there
  have sound := serving.live.sound a member
  have ready := serving.live.ready a member
  have steered := serving.live.steered a member
  have welcome : a.turnedAway? ⟨pid, index⟩ = none := by
    rw [Adapter.turnedAway?_next steered awake slot valid fed.symm, fed,
      if_neg (Nat.not_le.2 room)]
  have ok := Adapter.startFeed_obliged sound serving.obliging welcome
  obtain ⟨moved, steered', counted⟩ := Adapter.startFeed_spec sound ready steered ⟨pid, index⟩
  have active := Adapter.active_startFeed sound ready ⟨pid, index⟩
  obtain ⟨serving', feedings⟩ := serving.set there moved steered'
    (Adapter.spares_startFeed sound ready ⟨pid, index⟩).toSteady
  refine ⟨_, _, ?_, serving', ?_⟩
  · unfold Device.startFeed
    rw [onAdapter_some h there, ok]
  · rw [feedings, counted, active, ok, fed, awake]
    rfl

theorem stopFeed (within : i < size) (feed : Feed) :
    ∃ h' d', Device.stopFeed h d i feed = (.ok (), h', d') ∧
      Serving h₀ r filtering size buffers h' d' := by
  obtain ⟨a, there⟩ := serving.adapter within
  have member := List.mem_of_getElem? there
  have sound := serving.live.sound _ member
  have steered := serving.live.steered _ member
  obtain ⟨moved, steered', -⟩ := Adapter.stopFeed_spec sound steered feed
  obtain ⟨serving', -⟩ := serving.set there moved steered'
    (Adapter.spares_stopFeed sound steered feed).toSteady
  refine ⟨_, _, ?_, serving'⟩
  unfold Device.stopFeed
  rw [onAdapter_some h there, Adapter.stopFeed_obliged serving.obliging]

theorem sleep (within : i < size) (slot : Nat) :
    ∃ h' d', Device.sleep h d i slot = (.ok (), h', d') ∧
      Serving h₀ r filtering size buffers h' d' := by
  have serving₁ := serving.perform (.demodSleep i slot) rfl
  have serving₂ := serving₁.perform (.frontendControl i slot false) rfl
  obtain ⟨a, there⟩ := serving.adapter within
  have member := List.mem_of_getElem? there
  have sound := serving₂.live.sound _ member
  obtain ⟨moved, steered', -⟩ := Adapter.deselect_spec sound (serving.live.steered _ member) slot
  obtain ⟨serving₃, -⟩ :=
    serving₂.set there moved steered' (Adapter.spares_deselect sound slot).toSteady
  obtain ⟨h₄, power, dark, serving₄⟩ := serving₃.powerDown
  refine ⟨h₄, _, ?_, serving₄⟩
  unfold Device.sleep
  rw [serving.obliging.perform_eq]
  simp only [onAdapter_some _ there, dark]

theorem complete {u : Urb} {queue : List Urb} (removed : Removed h.bus.queue u queue)
    (fill : Fill) :
    let after := Device.complete { h with bus := { h.bus with queue } } d (u.fill fill)
    Serving h₀ r filtering size buffers after.1 after.2 ∧ h.Steady after.1 := by
  have key : (u.fill fill).key = u.key := u.key_fill fill
  intro after
  simp only [after, Device.complete, key]
  by_cases known : u.key.stream ∈ streamIds
  · obtain ⟨a, there, within, own⟩ := serving.live.owner removed.mem known
    have member := List.mem_of_getElem? there
    have sound := serving.live.sound a member
    have number := serving.live.ids _ a there
    obtain ⟨worked, runs⟩ := Adapter.worked_complete sound within removed own fill
    have spares := Adapter.spares_complete (Host.Spares.refl a.id h) sound rfl removed number.symm
      (u.key.stream % maxFrontends) fill
    have steered := worked.steered runs (serving.live.steered a member)
    rw [onAdapter_some _ there]
    exact ⟨(serving.set there worked.toMoved steered spares.toSteady).1, spares.toSteady⟩
  · have unqueued : h.Steady { h with bus := { h.bus with queue } } :=
      Host.steady_bus rfl rfl rfl rfl
    rw [onAdapter_missing _ (missing_of_unknown serving.live known)]
    refine ⟨serving.elsewhere unqueued (fun n member => ?_) d.power, unqueued⟩
    exact removed.ofStream_eq fun same => known (same ▸ member)

theorem watch (look : Adapter → Option Demux) :
    Serving h₀ r filtering size buffers h
      { d with adapters := d.adapters.map fun a => { a with demux := look a } } := by
  have live := serving.live
  -- The places and buffers of an adapter have nothing to do with what its demux has seen.
  have looked {a : Adapter} (member : a ∈ d.adapters) :
      Moved h a r h { a with demux := look a } r :=
    (Moved.refl (live.sound a member)).adjust a.feeds a.gate (look a)
  have alike {b : Adapter} (present : b ∈ d.adapters.map fun a => { a with demux := look a }) :
      ∃ a ∈ d.adapters, { a with demux := look a } = b := List.mem_map.1 present
  exact
    { live :=
        { size := (List.length_map _).symm ▸ live.size
          ids := fun i b there => by
            rw [List.getElem?_map] at there
            obtain ⟨a, before, rfl⟩ := Option.map_eq_some_iff.1 there
            exact live.ids i a before
          sound := fun b present => by
            obtain ⟨a, member, rfl⟩ := alike present
            exact { live.sound a member with }
          strays := fun n known foreign =>
            live.strays n known fun a member =>
              foreign { a with demux := look a } (List.mem_map.2 ⟨a, member, rfl⟩)
          ledger := by
            rw [← List.map_reverse, List.flatMap_map, List.flatMap_map]
            rw [List.flatMap_congr fun a member => (looked (List.mem_reverse.1 member)).places,
              List.flatMap_congr fun a member => (looked (List.mem_reverse.1 member)).demods]
            exact live.ledger
          ready := fun b present => by
            obtain ⟨a, member, rfl⟩ := alike present
            exact live.ready a member
          steered := fun b present => by
            obtain ⟨a, member, rfl⟩ := alike present
            exact { live.steered a member with } }
      phase := serving.phase
      size := (List.length_map _).trans serving.size
      obliging := serving.obliging
      allocated := serving.allocated
      slots := fun b present => by
        obtain ⟨a, member, rfl⟩ := alike present
        exact serving.slots a member
      frontends := fun b present => by
        obtain ⟨a, member, rfl⟩ := alike present
        exact serving.frontends a member }

end Serving

section BringUp

open Host (Granted)

variable {p : SlotProperties}

theorem bringUpAdapters_obliged (usable : p.layout.Usable)
    (small : p.layout.bufferSize < addressSpace) (id count : Nat) (bare : d.i2c = none)
    (obliging : h.Obliging) :
    ∃ h' fresh, bringUpAdapters id (List.replicate count [p]) h d =
        (.ok (), h', { d with adapters := d.adapters ++ fresh }) ∧
      h.Granted h' (p.layout.count * count) ∧
      ∀ a ∈ fresh, a.isRegistered 0 = true ∧ a.slots.map (·.filtering) =
        [Filtering.choose p.filter h.bus.speed d.config.forceFilter] := by
  induction count generalizing id h d with
  | zero =>
    refine ⟨h, [], by simp [bringUpAdapters], ?_, by simp⟩
    exact (Host.Steady.refl h).granted obliging
  | succ count ih =>
    obtain ⟨h₁, a, up, granted, filtering, registered⟩ := Adapter.bringUp_obliged
      (a := Adapter.new id [p] h.bus.speed d.config.forceFilter) obliging rfl rfl nofun usable
      small d.product.name
    obtain ⟨h₂, fresh, rest, later, alike⟩ :=
      ih (d := { d with adapters := d.adapters ++ [a] }) (id + 1) bare granted.obliging
    refine ⟨h₂, a :: fresh, ?_, ?_, ?_⟩
    · rw [← bare] at up
      simp only [List.replicate_succ, bringUpAdapters, up, rest, List.append_assoc,
        List.singleton_append]
    · rw [Nat.mul_succ, Nat.add_comm]
      exact granted.trans later
    · rw [granted.speed] at alike
      exact List.forall_mem_cons.2 ⟨⟨registered, filtering⟩, alike⟩

theorem bringUp_obliged (h : Host) (product : Product) (config : Config) {count : Nat}
    (quiet : ∀ n ∈ streamIds, ofStream n h.bus.queue = []) (obliging : h.Obliging)
    (wireless : h.driver.hasI2c = false) (good : h.driver.properties.problem? = none)
    (alike : h.driver.properties.adapters = List.replicate count [p])
    (usable : p.layout.Usable) (small : p.layout.bufferSize < addressSpace) :
    ∃ h' d r, bringUp h product config = (.ok (), h', d) ∧ d.product = product ∧
      Serving h r (Filtering.choose p.filter h.bus.speed config.forceFilter) count
        (h.bus.allocated.length + p.layout.count * count) h' d ∧
      d.feedings = List.replicate count (0, none) := by
  have settled := settled_bringUp h product config quiet
  -- Power on, the adapters, power off: each of them is followed to the state that it leaves.
  let h₀ := (h.perform (.power true)).2
  let d₀ : Device := { product, config, phase := .i2cReady, power := ⟨1⟩ }
  have powered : h.Steady h₀ := Host.steady_perform h (.power true) rfl
  obtain ⟨h₁, fresh, up, granted, each⟩ := bringUpAdapters_obliged (d := d₀) usable small 0 count
    rfl (powered.obliging obliging)
  let hasRemote := h.driver.properties.remoteInterval.isSome && !config.disableRemote
  let d₁ : Device := { d₀ with adapters := fresh, phase := .ready, hasRemote }
  obtain ⟨result, h₂, steady, -, dark⟩ := powerDown_cases h₁ d₁
  have lit : powerUp h { product, config } = (.ok (), h₀, { product, config, power := ⟨1⟩ }) := by
    simp only [powerUp, PowerRail.acquire, if_true]
    rw [obliging.perform_eq]
  have parts : bringUpParts h₀ { product, config, power := ⟨1⟩ } = (.ok (), h₁, d₁) := by
    have wireless : h₀.driver.hasI2c = false := wireless
    have alike : h₀.driver.properties.adapters = List.replicate count [p] := alike
    unfold bringUpParts
    simp only [wireless, alike, Bool.false_eq_true, if_false]
    rw [show bringUpAdapters 0 _ h₀ _ = _ from up]
    rfl
  have whole : bringUp h product config =
      (.ok (), h₂, { d₁ with power := d₁.power.release.2 }) := by
    unfold bringUp
    rw [good]
    simp only [lit, parts, dark]
  rw [whole] at settled
  obtain ⟨⟨r, live⟩, phase, size, unfed⟩ := settled.ok rfl
  rw [alike, List.length_replicate] at size
  have all := granted.trans (steady.granted granted.obliging)
  refine ⟨h₂, _, r, whole, rfl, ?_, ?_⟩
  · exact
      { live
        phase
        size
        obliging := all.obliging
        allocated := all.allocated
        slots := fun a there => (each a there).2
        frontends := fun a there => (each a there).1 }
  · refine List.eq_replicate_iff.2 ⟨(List.length_map _).trans size, fun feeding there => ?_⟩
    obtain ⟨a, member, rfl⟩ := List.mem_map.1 there
    rw [unfed a member]

end BringUp

end Device

section Exit

theorem Flow.allocated_release (f : Flow) :
    f.release.host.bus.allocated = f.host.bus.allocated := by
  have stopped := (kept_stop f).host.allocated
  unfold release
  dsimp only
  split
  next => exact stopped
  next =>
    dsimp only [Pool.release]
    rw [Bus.freeAll_eq]
    exact stopped

namespace Adapter

theorem allocated_releaseStreams (count slot : Nat) (h : Host) (a : Adapter) :
    (releaseStreams count slot h a).1.bus.allocated = h.bus.allocated := by
  induction count generalizing slot h a with
  | zero => rfl
  | succ count ih =>
    refine (ih (slot + 1) _ _).trans ?_
    cases there : a.slots[slot]? with
    | none => rw [onStream_missing h there]
    | some s =>
      obtain ⟨h', demux, same, -, bus⟩ := onStream_cases h there () fun f => ((), f.release)
      rw [same]
      exact (congrArg Bus.allocated bus).trans
        (Flow.allocated_release { host := h, stream := s.stream })

theorem bus_detachFrontends (count : Nat) (h : Host) (a : Adapter) :
    (detachFrontends count h a).1.bus = h.bus := by
  induction count generalizing h a with
  | zero => rfl
  | succ slot ih =>
    unfold detachFrontends
    split
    next => exact ih h a
    next =>
      split
      next => exact ih _ _
      next => exact ih h a

theorem bus_unregister (h : Host) (known : Bool) (place : Place) :
    (if known then unregister h place else h).bus = h.bus := by
  cases known with
  | false => rfl
  | true => rfl

theorem allocated_exit (h : Host) (a : Adapter) :
    (exit h a).1.bus.allocated = h.bus.allocated := by
  simp only [exit, allocated_releaseStreams, bus_unregister, bus_detachFrontends]
  rfl

end Adapter

namespace Device

theorem allocated_exitAdapters (h : Host) (adapters : List Adapter) :
    (exitAdapters h adapters).1.bus.allocated = h.bus.allocated := by
  induction adapters with
  | nil => rfl
  | cons a rest ih => exact (Adapter.allocated_exit _ a).trans ih

theorem Serving.exit {h₀ h : Host} {r : Nat → List UrbIdentity} {filtering : Filtering}
    {size buffers : Nat} {d : Device} (serving : Serving h₀ r filtering size buffers h d) :
    (d.exit h).1.bus.allocated.length = buffers ∧
      (d.exit h).1.bus.freed.length + h₀.bus.allocated.length = buffers + h₀.bus.freed.length := by
  have up : d.phase ≠ .uninitialized := by
    rw [serving.phase]
    decide
  unfold Device.exit
  rw [if_neg up]
  have kept : (tearDown h d).1.bus.allocated.length = buffers :=
    (congrArg List.length (allocated_exitAdapters h d.adapters)).trans serving.allocated
  refine ⟨kept, ?_⟩
  obtain ⟨got, given, allocated, freed, balance⟩ :=
    (tornDown_tearDown serving.live.toStanding).ledger.memory
  have even := balance.length_eq
  rw [allocated, List.length_append] at kept
  rw [freed, List.length_append]
  simp only [List.append_nil] at even
  omega

end Device

end Exit

end DvbReceiver
