import DvbReceiver.Proofs.Adapter.Log
import DvbReceiver.Proofs.Adapter.Sparing
import DvbReceiver.Proofs.Stream.Handover

set_option autoImplicit false

namespace DvbReceiver

def Event.isFault : Event → Bool
  | .called _ (.failed _) | .refused _ => true
  | _ => false

def Failure.isFault : Failure → Bool
  | .streamingControl .. | .filterControl .. | .transfer .. => true
  | _ => false

namespace Host

variable {h h' : Host} {hook : Hook} {u : Urb} {e : Failure} {reason : String}

def faults (h : Host) : Nat :=
  h.trace.countP Event.isFault

theorem Calm.faults_le (calm : Calm h h') : h.faults ≤ h'.faults := by
  obtain ⟨events, trace, -⟩ := calm.trace
  unfold faults
  rw [trace, List.countP_append]
  exact Nat.le_add_left ..

theorem faults_perform (failed : (h.perform hook).1 = .error e) :
    h.faults < (h.perform hook).2.faults := by
  have outcome : (Event.called hook (h.driver.answer h.calls hook)).isFault = true := by
    rw [HookOutcome.eq_failed failed]
    rfl
  have trace : (h.perform hook).2.trace =
      .called hook (h.driver.answer h.calls hook) :: h.trace := rfl
  unfold faults
  rw [trace, List.countP_cons_of_pos outcome]
  exact Nat.lt_succ_self _

theorem faults_submit (refused : (h.submit u).1 = some reason) :
    h.faults < (h.submit u).2.faults := by
  unfold submit at refused ⊢
  split at refused
  next => cases refused
  next => exact Nat.lt_of_lt_of_eq (Nat.lt_succ_self _) (List.countP_cons_of_pos rfl).symm

theorem Spares.queue_eq {i : Nat} (spares : Spares i h h')
    (before : ∀ u ∈ h.bus.queue, u.key.adapter ≠ i)
    (after : ∀ u ∈ h'.bus.queue, u.key.adapter ≠ i) : h'.bus.queue = h.bus.queue := by
  have others {queue : List Urb} (none : ∀ u ∈ queue, u.key.adapter ≠ i) :
      ofOtherAdapters i queue = queue :=
    List.filter_eq_self.2 fun u there => decide_eq_true (none u there)
  have same := spares.queue
  rwa [others before, others after] at same

end Host

namespace Flow

variable {f : Flow} {roster : List UrbIdentity} {index : Nat} {urbs : List Urb} {e : Failure}

theorem faults_submitFrom (stock : f.stream.parked.drop index = urbs.map some)
    (failed : (submitFrom urbs.length index f).1 = .error e) :
    e.isFault = true ∧ f.host.faults < (submitFrom urbs.length index f).2.host.faults := by
  -- On the requests that are left, as they are handed over.
  induction urbs generalizing index f with
  | nil => cases failed
  | cons u rest ih =>
    have steady := Host.steady_submit f.host u
    have refusal := @Host.faults_submit f.host u
    obtain ⟨reason, host, stream, refused, same⟩ | ⟨host, stream, accepted, left, same⟩ :=
      submitFrom_cons stock
    next =>
      rw [same] at failed ⊢
      cases failed
      rw [refused] at refusal
      have stopped := (kept_stop (park { f with host, stream } u)).host.faults_le
      exact ⟨rfl, Nat.lt_of_lt_of_le (refusal rfl) stopped⟩
    next =>
      rw [same] at failed ⊢
      rw [accepted] at steady
      obtain ⟨fault, more⟩ := @ih
        { f with host, stream := { stream with submitted := index + 1 } } (index + 1) left failed
      exact ⟨fault, Nat.lt_of_le_of_lt steady.faults_le more⟩

theorem Sound.faults_start (sound : f.Sound roster) (rest : f.stream.submitted = 0)
    (failed : f.start.1 = .error e) :
    e.isFault = true ∧ f.host.faults < f.start.2.host.faults := by
  cases prepared : f.stream.lane.isSome with
  | false =>
    rw [start_unprepared prepared] at failed
    cases failed
  | true =>
    obtain ⟨f', same, host, stocked⟩ := sound.start_eq prepared rest
    rw [same] at failed ⊢
    have handed := faults_submitFrom stocked failed
    rwa [host] at handed

end Flow

namespace Adapter

variable {h h' : Host} {a a' : Adapter} {r : Nat → List UrbIdentity} {slot : Nat} {feed : Feed}
  {e : Failure}

theorem faults_startStream (sound : a.Sound r h.bus.queue) (idle : a.runs slot = false)
    (failed : (startStream h a slot).1 = .error e) :
    e.isFault = true ∧ h.faults < (startStream h a slot).2.1.faults := by
  unfold startStream at failed ⊢
  cases there : a.slots[slot]? with
  | none =>
    rw [onStream_missing h there] at failed
    cases failed
  | some s =>
    obtain ⟨h', demux, same, steady, -⟩ := onStream_cases h there (.ok ()) Flow.start
    have rest : s.stream.submitted = 0 := by
      refine Stream.isRunning_eq_false_iff.1 ?_
      simpa [runs, there] using idle
    have before : Flow.Sound { host := h, stream := s.stream } (r (streamId a.id slot)) :=
      sound.streams slot s there
    rw [same] at failed ⊢
    obtain ⟨fault, more⟩ := before.faults_start rest failed
    exact ⟨fault, Nat.lt_of_lt_of_le more steady.faults_le⟩

theorem Worked.faults_le {r' : Nat → List UrbIdentity} (worked : Worked h a r h' a' r') :
    h.faults ≤ h'.faults :=
  worked.exchange.faults_le

theorem faults_startStreaming (sound : a.Sound r h.bus.queue) (s : Slot) :
    ∀ e, (startStreaming h a slot s).1 = .error e →
      e.isFault = true ∧ h.faults < (startStreaming h a slot s).2.1.faults := by
  have stopped := worked_stopStream sound slot
  have off := switched_stopStream h a slot
  unfold startStreaming
  -- Whichever step fails, its fault is on record, and undoing the steps before it removes nothing.
  cases first : stopStream h a slot with
  | mk h₁ a₁ =>
    rw [first] at stopped off
    have asked := (Worked.refl stopped.sound).perform (.streaming a₁.id true) rfl
    have told := @Host.faults_perform h₁ (.streaming a₁.id true)
    dsimp only
    split
    next cause h₂ refused =>
      rw [refused] at told
      rintro e ⟨⟩
      exact ⟨rfl, Nat.lt_of_le_of_lt stopped.faults_le (told rfl)⟩
    next h₂ granted =>
      rw [granted] at asked
      have upTo := Nat.le_trans stopped.faults_le asked.faults_le
      have started := worked_startStream asked.sound slot
      have idle : a₁.runs slot = false := by simpa using off slot
      have faulty := @faults_startStream h₂ a₁ r slot
      split
      next cause h₃ a₃ failed =>
        rw [failed] at faulty
        rintro e ⟨⟩
        obtain ⟨fault, more⟩ := faulty asked.sound idle rfl
        have last := (Host.steady_perform h₃ (.streaming a₃.id false) rfl).faults_le
        exact ⟨fault, Nat.lt_of_le_of_lt upTo (Nat.lt_of_lt_of_le more last)⟩
      next h₃ a₃ running =>
        rw [running] at started
        have upTo := Nat.le_trans upTo started.faults_le
        split
        next =>
          have set := started.perform (.pidFilterControl a₃.id s.filtering.isHardware) rfl
          have told := @Host.faults_perform h₃ (.pidFilterControl a₃.id s.filtering.isHardware)
          split
          next cause h₄ failed =>
            rw [failed] at set told
            rintro e ⟨⟩
            have halted := (worked_stopStream set.sound slot).perform (.streaming a₃.id false) rfl
            have last : h₄.faults ≤
                (streamingOff (stopStream h₄ a₃ slot).1 (stopStream h₄ a₃ slot).2).faults := by
              have id := (worked_stopStream set.sound slot).id
              rw [← id] at halted
              exact halted.faults_le
            exact ⟨rfl, Nat.lt_of_le_of_lt upTo (Nat.lt_of_lt_of_le (told rfl) last)⟩
          next => rintro e ⟨⟩
        next => rintro e ⟨⟩

/-- Why a feed is turned away, if it is, before anything is done about it. -/
def turnedAway? (a : Adapter) (feed : Feed) : Option Failure :=
  if Packet.maxPid < feed.pid then some (.pidRange feed.pid)
  else
    match a.feedSlot with
    | .error e => some e
    | .ok (_, s) => a.refusal? s feed

theorem isFault_refusal {s : Slot} (refused : a.refusal? s feed = some e) : e.isFault = false := by
  unfold refusal? at refused
  obtain beyond | ⟨-, full⟩ := Option.or_eq_some_iff.1 refused
  next =>
    split at beyond
    next =>
      split at beyond
      next =>
        cases beyond
        rfl
      next => cases beyond
    next => cases beyond
  next =>
    split at full
    next =>
      cases full
      rfl
    next => cases full

theorem isFault_turnedAway (away : a.turnedAway? feed = some e) : e.isFault = false := by
  unfold turnedAway? at away
  split at away
  next =>
    cases away
    rfl
  next =>
    split at away
    next missing =>
      cases away
      unfold feedSlot at missing
      split at missing
      next =>
        cases missing
        rfl
      next =>
        split at missing
        next =>
          cases missing
          rfl
        next => cases missing
    next => exact isFault_refusal away

theorem startFeed_turnedAway (away : a.turnedAway? feed = some e) :
    startFeed h a feed = (.error e, h, a) := by
  unfold turnedAway? at away
  unfold startFeed
  by_cases beyond : Packet.maxPid < feed.pid
  · rw [if_pos beyond] at away ⊢
    cases away
    rfl
  · rw [if_neg beyond] at away ⊢
    cases found : a.feedSlot with
    | error cause =>
      rw [found] at away
      cases away
      rfl
    | ok owner =>
      obtain ⟨slot, s⟩ := owner
      rw [found] at away
      have away : a.refusal? s feed = some e := away
      simp only [away]

theorem turnedAway_congr (feeds : a'.feeds = a.feeds) (id : a'.id = a.id)
    (plan : a'.slots.map Slot.plan = a.slots.map Slot.plan) (feed : Feed) :
    a'.turnedAway? feed = a.turnedAway? feed := by
  have place (slot : Nat) :
      (a'.slots[slot]?).map Slot.plan = (a.slots[slot]?).map Slot.plan := by
    simpa using congrArg (·[slot]?) plan
  unfold turnedAway? feedSlot
  rw [feeds, id]
  refine ite_congr rfl (fun _ => rfl) fun _ => ?_
  cases a.feeds.streaming.or a.feeds.active with
  | none => rfl
  | some slot =>
    have same := place slot
    cases there : a.slots[slot]? with
    | none =>
      have absent : a'.slots[slot]? = none := by simpa [there] using same
      simp [absent, there]
    | some s =>
      rw [there] at same
      obtain ⟨s', there', alike⟩ := Option.map_eq_some_iff.1 same
      have filtering : s'.filtering = s.filtering := congrArg (·.2.1) alike
      simp [there', there, refusal?, filtering, feeds, id]

theorem startFeed_failed (sound : a.Sound r h.bus.queue) (welcome : a.turnedAway? feed = none)
    (failed : (startFeed h a feed).1 = .error e) :
    a.feeds.streaming = none ∧ e.isFault = true ∧ h.faults < (startFeed h a feed).2.1.faults := by
  revert e
  unfold turnedAway? at welcome
  unfold startFeed
  split
  next beyond =>
    rw [if_pos beyond] at welcome
    cases welcome
  next within =>
    rw [if_neg within] at welcome
    split
    next missing =>
      rw [missing] at welcome
      cases welcome
    next slot s found =>
      rw [found] at welcome
      have welcome : a.refusal? s feed = none := welcome
      split
      next refused =>
        rw [refused] at welcome
        cases welcome
      next =>
        split
        next => rintro e ⟨⟩ -- one more feed for a stream that runs, which nobody is asked about
        next idle =>
          have opened : a.Sound r (setGate h a (a.feeds.count + 1)).1.bus.queue := sound
          have shown := (Host.steady_note h (e := .gated a.id (a.feeds.count + 1)) rfl).faults_le
          have faulty := @faults_startStreaming (setGate h a (a.feeds.count + 1)).1
            (setGate h a (a.feeds.count + 1)).2 r slot { opened with } s
          dsimp only
          split
          next cause h₁ a₁ outcome =>
            rw [outcome] at faulty
            rintro e ⟨⟩
            obtain ⟨fault, more⟩ := faulty cause rfl
            have last := (Host.steady_note h₁ (e := .gated a₁.id a₁.feeds.count) rfl).faults_le
            exact ⟨by simpa using idle, fault,
              Nat.lt_of_le_of_lt shown (Nat.lt_of_lt_of_le more last)⟩
          next => rintro e ⟨⟩

theorem feeds_startFeed (sound : a.Sound r h.bus.queue) (ready : a.Ready r)
    (failed : (startFeed h a feed).1 = .error e) : (startFeed h a feed).2.2.feeds = a.feeds := by
  have starting := starting_startFeed h a feed
  generalize startFeed h a feed = result at starting failed ⊢
  cases starting with
  | refused => rfl
  | joined => cases failed
  | failed slot s e h₁ a₁ _ _ there refused =>
    have feeds := (worked_first sound ready there).feeds
    rw [refused] at feeds
    exact feeds
  | first => cases failed

theorem filters_startFeed (failed : (startFeed h a feed).1 = .error e) :
    (startFeed h a feed).2.2.filters = a.filters := by
  have blind : Blind fun _ _ => (none : Option Unit) := ⟨fun _ _ _ => rfl, fun _ _ _ => rfl⟩
  exact (hidden_startFeed blind failed).filters

theorem submitted_of_rest (rest : ∀ j, a.runs j = false) :
    a.slots.map (·.stream.submitted) = List.replicate a.slots.length 0 := by
  refine List.eq_replicate_iff.2 ⟨List.length_map _, fun n there => ?_⟩
  obtain ⟨s, member, rfl⟩ := List.mem_map.1 there
  obtain ⟨j, index⟩ := List.getElem?_of_mem member
  refine Stream.isRunning_eq_false_iff.1 ?_
  simpa [runs, index] using rest j

theorem home_of_rest (sound : a.Sound r h.bus.queue) (rest : ∀ j, a.runs j = false) :
    ∀ s ∈ a.slots, s.stream.AtHome := by
  intro s member
  obtain ⟨j, there⟩ := List.getElem?_of_mem member
  have whole : Flow.Sound { host := h, stream := s.stream } (r (streamId a.id j)) :=
    sound.streams j s there
  refine whole.atHome (Stream.isRunning_eq_false_iff.1 ?_)
  simpa [runs, there] using rest j

/-- What is left of an attempt to start a feed that ended with `e`. -/
structure Undone (h : Host) (a : Adapter) (feed : Feed) (e : Failure) (h' : Host) (a' : Adapter) :
    Prop where
  feeds : a'.feeds = a.feeds
  gate : a'.gate = a.gate
  filters : a'.filters = a.filters
  submitted : a'.slots.map (·.stream.submitted) = a.slots.map (·.stream.submitted)
  queue : h'.bus.queue = h.bus.queue
  home : a.feeds.streaming = none → ∀ s ∈ a'.slots, s.stream.AtHome
  /-- Once there are feeds another one never gets as far as the receiver or the bus. -/
  still : a.feeds.streaming ≠ none → h' = h ∧ a' = a
  fault : e.isFault = true ↔ h.faults < h'.faults
  again : e.isFault = true → (startFeed h' a' feed).2.1.faults = h'.faults →
    (startFeed h' a' feed).1 = .ok ()

theorem undone_startFeed (sound : a.Sound r h.bus.queue) (ready : a.Ready r) (steered : a.Steered)
    (alone : a.Alone h.bus.queue) (failed : (startFeed h a feed).1 = .error e) :
    Undone h a feed e (startFeed h a feed).2.1 (startFeed h a feed).2.2 := by
  cases away : a.turnedAway? feed with
  | some cause =>
    rw [startFeed_turnedAway away] at failed ⊢
    cases failed
    have harmless := isFault_turnedAway away
    exact
      { feeds := rfl
        gate := rfl
        filters := rfl
        submitted := rfl
        queue := rfl
        home := fun none => home_of_rest sound (steered.rest none)
        still := fun _ => ⟨rfl, rfl⟩
        fault := by simp [harmless]
        again := fun fault => by simp [harmless] at fault }
  | none =>
    -- There were no feeds, so that no stream ran before the attempt, and none runs after it.
    obtain ⟨none, fault, more⟩ := startFeed_failed sound away failed
    obtain ⟨moved, steered', -⟩ := startFeed_spec sound ready steered feed
    have feeds := feeds_startFeed sound ready failed
    have spares := spares_startFeed sound ready feed
    have rest := steered.rest none
    have rest' := steered'.rest ((congrArg Feeds.streaming feeds).trans none)
    exact
      { feeds
        gate := by rw [steered'.gate, steered.gate, feeds]
        filters := filters_startFeed failed
        submitted := by rw [submitted_of_rest rest, submitted_of_rest rest', moved.length]
        queue := by
          have still := (moved.alone alone).idle moved.sound rest'
          rw [moved.id] at still
          exact spares.queue_eq (alone.idle sound rest) still
        home := fun _ => home_of_rest moved.sound rest'
        still := fun busy => absurd none busy
        fault := ⟨fun _ => more, fun _ => fault⟩
        again := fun _ clean => by
          have welcome := (turnedAway_congr feeds moved.id moved.plan feed).trans away
          cases outcome : (startFeed (startFeed h a feed).2.1 (startFeed h a feed).2.2 feed).1 with
          | ok => rfl
          | error cause =>
            obtain ⟨-, -, further⟩ := startFeed_failed moved.sound welcome outcome
            exact absurd clean (Nat.ne_of_gt further) }

end Adapter

end DvbReceiver
