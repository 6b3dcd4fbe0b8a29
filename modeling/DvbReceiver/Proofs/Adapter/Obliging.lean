import DvbReceiver.Proofs.Adapter.Rollback
import DvbReceiver.Proofs.Properties
import DvbReceiver.Proofs.Stream.Memory

set_option autoImplicit false

namespace DvbReceiver

namespace Host

/-- Nothing that is asked of the driver fails, nothing is refused by the registry, and the bus never
runs out of buffers or of room for requests. -/
structure Obliging (h : Host) : Prop where
  hooks : ∀ call hook, h.driver.answer call hook = .done
  registration : h.registry.refused = []
  allocation : ∀ attempt, h.bus.policy.allocation attempt = none
  submission : ∀ attempt, h.bus.policy.submission attempt = none

variable {h h' : Host}

theorem Calm.obliging (calm : Calm h h') (obliging : h.Obliging) : h'.Obliging where
  hooks := by
    rw [calm.driver]
    exact obliging.hooks
  registration := by
    rw [calm.registry]
    exact obliging.registration
  allocation := by
    rw [calm.policy]
    exact obliging.allocation
  submission := by
    rw [calm.policy]
    exact obliging.submission

theorem Obliging.call_eq (obliging : h.Obliging) (hook : Hook) :
    h.call hook = (.done, (h.call hook).2) :=
  Prod.ext (obliging.hooks h.calls hook) rfl

theorem Obliging.perform_eq (obliging : h.Obliging) (hook : Hook) :
    h.perform hook = (.ok (), (h.perform hook).2) :=
  Prod.ext (congrArg HookOutcome.toExcept (obliging.hooks h.calls hook)) rfl

structure Granted (h h' : Host) (count : Nat) : Prop where
  obliging : h'.Obliging
  speed : h'.bus.speed = h.bus.speed
  allocated : h'.bus.allocated.length = h.bus.allocated.length + count

theorem Granted.trans {h₁ h₂ h₃ : Host} {earlier later : Nat} (first : Granted h₁ h₂ earlier)
    (second : Granted h₂ h₃ later) : Granted h₁ h₃ (earlier + later) where
  obliging := second.obliging
  speed := second.speed.trans first.speed
  allocated := by rw [second.allocated, first.allocated, Nat.add_assoc]

theorem Steady.granted (steady : Steady h h') (obliging : h.Obliging) : Granted h h' 0 where
  obliging := steady.obliging obliging
  speed := steady.speed
  allocated := congrArg List.length steady.allocated

end Host

theorem Flow.prepare_obliged {f : Flow} {layout : Layout} (obliging : f.host.Obliging)
    (unprepared : f.stream.prepared = 0) (sink : f.stream.sink ≠ none) (usable : layout.Usable)
    (small : layout.bufferSize < addressSpace) :
    (f.prepare layout).1 = .ok () ∧ f.host.Granted (f.prepare layout).2.host layout.count := by
  have grants : (f.host.bus.clearHalt layout.pipe).2.Grants layout.count layout.bufferSize :=
    fun _ _ => ⟨obliging.allocation _, Nat.pos_of_ne_zero usable.size, small⟩
  have granted := (f.stream.pool.isOk_allocate _ _ _).2 grants
  unfold prepare
  rw [if_neg (by omega)]
  split
  next missing => exact absurd missing sink
  next =>
    rw [Layout.problem?_eq_none_iff.2 usable]
    dsimp only
    obtain ⟨buffers, bus, got, count, -, same, allocated, -⟩ | ⟨bus, -, refused, -⟩ :=
      f.stream.pool.allocate_cases (f.host.bus.clearHalt layout.pipe).2 layout.count
        layout.bufferSize
    next =>
      rw [got]
      have policy : bus.policy = f.host.bus.policy := same.policy
      refine ⟨rfl, ⟨obliging.hooks, obliging.registration, ?_, ?_⟩, same.speed, ?_⟩
      · exact fun attempt => policy ▸ obliging.allocation attempt
      · exact fun attempt => policy ▸ obliging.submission attempt
      · show bus.allocated.length = _
        rw [allocated, List.length_append, List.length_reverse, List.length_map, count,
          Nat.add_comm]
        rfl
    next =>
      rw [refused] at granted
      cases granted

def Filtering.overflow (filtering : Filtering) (adapter feeds : Nat) : Failure :=
  match filtering with
  | .hardware entries => .filterIndex feeds entries
  | .software => .feedLimit adapter feeds

namespace Adapter

variable {h : Host} {a : Adapter} {r : Nat → List UrbIdentity} {slot : Nat} {s : Slot} {feed : Feed}

section Feeds

theorem startStream_obliged (sound : a.Sound r h.bus.queue) (idle : a.runs slot = false)
    (obliging : h.Obliging) : (startStream h a slot).1 = .ok () := by
  unfold startStream
  cases there : a.slots[slot]? with
  | none => rw [onStream_missing h there]
  | some s =>
    have before : Flow.Sound { host := h, stream := s.stream } (r (streamId a.id slot)) :=
      sound.streams slot s there
    have rest : s.stream.submitted = 0 := by
      refine Stream.isRunning_eq_false_iff.1 ?_
      simpa [runs, there] using idle
    rw [onStream_fst h there]
    exact (before.start_takes rest fun _ _ => obliging.submission _).1

theorem startStreaming_obliged (sound : a.Sound r h.bus.queue) (obliging : h.Obliging) (s : Slot) :
    (startStreaming h a slot s).1 = .ok () := by
  have stopped := worked_stopStream sound slot
  have off := switched_stopStream h a slot slot
  unfold startStreaming
  cases first : stopStream h a slot with
  | mk h₁ a₁ =>
    rw [first] at stopped off
    have asked := stopped.perform (.streaming a₁.id true) rfl
    have idle : a₁.runs slot = false := by simpa using off
    have started := asked.trans (worked_startStream asked.sound slot)
    have ok := startStream_obliged asked.sound idle (asked.exchange.obliging obliging)
    dsimp only
    rw [(stopped.exchange.obliging obliging).perform_eq]
    dsimp only
    split
    next failed =>
      rw [failed] at ok
      cases ok
    next h₃ a₃ running =>
      rw [running] at started
      split
      next =>
        rw [(started.exchange.obliging obliging).perform_eq]
      next => rfl

/-- On an obliging host no feed fails but those that are turned away. -/
theorem startFeed_obliged (sound : a.Sound r h.bus.queue) (obliging : h.Obliging)
    (welcome : a.turnedAway? feed = none) : (startFeed h a feed).1 = .ok () := by
  cases outcome : (startFeed h a feed).1 with
  | ok => rfl
  | error e =>
    obtain ⟨-, -, more⟩ := startFeed_failed sound welcome outcome
    have starting := starting_startFeed h a feed
    generalize startFeed h a feed = result at starting outcome more
    cases starting with
    | refused => exact absurd more (Nat.lt_irrefl _)
    | joined => cases outcome
    | failed slot s e h₁ a₁ _ _ _ refused =>
      have opened : h.Steady (setGate h a (a.feeds.count + 1)).1 := Host.steady_note h rfl
      have sound₁ : (setGate h a (a.feeds.count + 1)).2.Sound r
        (setGate h a (a.feeds.count + 1)).1.bus.queue := { sound with }
      have ok := @startStreaming_obliged _ _ r slot sound₁ (opened.obliging obliging) s
      rw [refused] at ok
      cases ok
    | first => cases outcome

theorem steady_stopStream (h : Host) (a : Adapter) (slot : Nat) :
    h.Steady (stopStream h a slot).1 := by
  unfold stopStream
  cases there : a.slots[slot]? with
  | none =>
    rw [onStream_missing h there]
    exact Host.Steady.refl h
  | some s =>
    obtain ⟨h', demux, same, steady, -⟩ := onStream_cases h there () fun f => ((), f.stop)
    rw [same]
    exact (Flow.kept_stop { host := h, stream := s.stream }).host.trans steady

theorem stopFeed_obliged (obliging : h.Obliging) (a : Adapter) (feed : Feed) :
    (stopFeed h a feed).1 = .ok () := by
  unfold stopFeed
  split
  next => rfl
  next =>
    dsimp only [watch, setGate]
    generalize Option.any _ _ = filters
    have asked : h.Steady (if filters = true then
        (h.perform (.pidFilter a.id feed.index feed.pid false)).2 else h) := by
      split
      next => exact Host.steady_perform h _ rfl
      next => exact Host.Steady.refl h
    generalize (if filters = true then
        (h.perform (.pidFilter a.id feed.index feed.pid false)).2 else h) = h₁ at asked ⊢
    split
    next => rfl
    next =>
      split
      next => rfl
      next slot _ =>
        have shown := asked.trans (Host.steady_note h₁ (e := .gated a.id (a.feeds.count - 1)) rfl)
        have stopped (b : Adapter) := shown.trans (steady_stopStream _ b slot)
        rw [((stopped _).obliging obliging).perform_eq]

/-- The next feed is turned away if there is no room for it, and for no other reason. -/
theorem turnedAway?_next (steered : a.Steered) (awake : a.feeds.active = some slot)
    (there : a.slots[slot]? = some s) (valid : feed.pid ≤ Packet.maxPid)
    (next : feed.index = a.feeds.count) :
    a.turnedAway? feed = if s.filtering.maxFeeds ≤ a.feeds.count then
      some (s.filtering.overflow a.id a.feeds.count) else none := by
  have owner : a.feeds.streaming.or a.feeds.active = some slot := by
    cases busy : a.feeds.streaming with
    | none => exact awake
    | some j => exact (steered.active j busy).1.symm.trans awake
  unfold turnedAway? feedSlot
  rw [if_neg (Nat.not_lt.2 valid), owner]
  simp only [there, refusal?, next]
  cases s.filtering with
  | software => rfl
  | hardware entries =>
    by_cases full : entries ≤ a.feeds.count
    · simp [Filtering.maxFeeds, Filtering.overflow, full]
    · simp [Filtering.maxFeeds, full]

end Feeds

section BringUp

open Host (Granted)

theorem register_obliged (obliging : h.Obliging) (what : Registration) :
    ∃ h', register h what = (.ok (), h') ∧ h.Granted h' 0 := by
  have welcome : ¬ h.registry.refused.contains what.place = true := by
    rw [obliging.registration]
    exact Bool.false_ne_true
  unfold register Registry.register
  rw [if_neg welcome]
  exact ⟨_, rfl, ⟨obliging.hooks, obliging.registration, obliging.allocation, obliging.submission⟩,
    rfl, rfl⟩

theorem attach_obliged (obliging : h.Obliging) (adapter slot : Nat) :
    ∃ name h', attach h adapter slot none = (.ok (some name), h') ∧ h.Granted h' 0 := by
  have asked := (Host.steady_call h (.frontendAttach adapter slot) rfl).granted obliging
  unfold attach
  rw [obliging.call_eq]
  exact ⟨_, _, rfl, ⟨asked.obliging.hooks, asked.obliging.registration, asked.obliging.allocation,
    asked.obliging.submission⟩, asked.speed, asked.allocated⟩

theorem attachFrontend_obliged (obliging : h.Obliging) (a : Adapter) (slot : Nat) :
    ∃ h' name, attachFrontends none 1 slot h a =
        (.ok (), h', { a with
          slots := a.slots.modify slot fun s => { s with frontend := some ⟨name, true⟩ } }) ∧
      h.Granted h' 0 := by
  obtain ⟨name, h₁, attached, granted₁⟩ := attach_obliged obliging a.id slot
  obtain ⟨h₂, registered, granted₂⟩ :=
    register_obliged granted₁.obliging (.frontend a.id slot name)
  have told := (Host.steady_perform h₂ (.tunerAttach a.id slot) rfl).granted granted₂.obliging
  refine ⟨_, name, ?_, (granted₁.trans granted₂).trans told⟩
  simp only [attachFrontends, attached, registered]

theorem prepareStream_obliged (obliging : h.Obliging) (there : a.slots[slot]? = some s)
    (unprepared : s.stream.prepared = 0) (sink : s.stream.sink ≠ none)
    (usable : s.props.layout.Usable) (small : s.props.layout.bufferSize < addressSpace) :
    ∃ h' stream demux, prepareStreams 1 slot h a =
        (.ok (), h', { a with slots := a.slots.set slot { s with stream }, demux }) ∧
      h.Granted h' s.props.layout.count := by
  obtain ⟨h', demux, same, steady, -⟩ :=
    onStream_cases h there (.ok ()) fun f => f.prepare s.props.layout
  obtain ⟨ok, granted⟩ :=
    Flow.prepare_obliged (f := { host := h, stream := s.stream }) obliging unprepared sink usable
      small
  refine ⟨h', (Flow.prepare { host := h, stream := s.stream } s.props.layout).2.stream, demux, ?_,
    granted.trans (steady.granted granted.obliging)⟩
  simp only [prepareStreams, there, same, ok]

theorem bringUp_obliged (obliging : h.Obliging) (one : a.slots = [s])
    (unprepared : s.stream.prepared = 0) (sink : s.stream.sink ≠ none)
    (usable : s.props.layout.Usable) (small : s.props.layout.bufferSize < addressSpace)
    (name : String) :
    ∃ h' a', a.bringUp h name none = (.ok (), h', a') ∧ h.Granted h' s.props.layout.count ∧
      a'.slots.map (·.filtering) = [s.filtering] ∧ a'.isRegistered 0 = true := by
  have there : a.slots[0]? = some s := by rw [one]; rfl
  -- Stream, adapter, demux, network interface and frontend, each on the host that the last left.
  obtain ⟨h₁, stream, demux, prepared, granted₁⟩ :=
    prepareStream_obliged obliging there unprepared sink usable small
  let a₁ : Adapter := { a with slots := a.slots.set 0 { s with stream }, demux }
  obtain ⟨h₂, adapter, granted₂⟩ := register_obliged granted₁.obliging (.adapter a.id name)
  obtain ⟨h₃, demuxed, granted₃⟩ := register_obliged granted₂.obliging
    (.demux a.id ⟨a₁.maxFeeds, a₁.slots.any (·.filtering.isHardware)⟩)
  obtain ⟨h₄, net, granted₄⟩ := register_obliged granted₃.obliging (.net a.id)
  let a₄ : Adapter := { a₁ with
    demux := some h₃.registry.newDemux
    registered := { adapter := true, demux := true, net := true } }
  obtain ⟨h₅, frontend, attached, granted₅⟩ := attachFrontend_obliged granted₄.obliging a₄ 0
  have length : a.slots.length = 1 := by rw [one]; rfl
  refine ⟨h₅, { a₄ with slots := a₄.slots.modify 0 fun s => { s with
      frontend := some ⟨frontend, true⟩ } }, ?_,
    (((granted₁.trans granted₂).trans granted₃).trans granted₄).trans granted₅, ?_, ?_⟩
  · unfold bringUp
    rw [length, prepared]
    dsimp only
    rw [adapter]
    dsimp only
    have demuxed : register h₂ (.demux a.id
      ⟨maxFeeds { a₁ with registered := { a.registered with adapter := true } },
        a₁.slots.any (·.filtering.isHardware)⟩) = (.ok (), h₃) := demuxed
    rw [demuxed]
    dsimp only
    rw [net]
    have single : (a.slots.set 0 { s with stream }).length = 1 := by rw [List.length_set, length]
    rw [single]
    exact attached
  · simp [a₄, a₁, one]
  · simp [a₄, a₁, one, isRegistered]

end BringUp

end Adapter

end DvbReceiver
