import DvbReceiver.Proofs.Adapter.Streams

set_option autoImplicit false

namespace DvbReceiver.Adapter

variable {h : Host} {a a' : Adapter} {r : Nat → List UrbIdentity} {slot : Nat}

def isRegistered (a : Adapter) (slot : Nat) : Bool :=
  ((a.slots[slot]?).bind (·.frontend)).any (·.registered)

/-- The bookkeeping of the feeds agrees with what the streams do. -/
structure Steered (a : Adapter) : Prop where
  streaming : ∀ j, a.runs j = true ↔ a.feeds.streaming = some j
  active : ∀ j, a.feeds.streaming = some j → a.feeds.active = some j ∧ 1 ≤ a.feeds.count
  gate : a.gate = a.feeds.count
  registered : ∀ j, a.feeds.active = some j → a.isRegistered j = true

def Ready (a : Adapter) (rosters : Nat → List UrbIdentity) : Prop :=
  ∀ j < a.slots.length, rosters (streamId a.id j) ≠ []

def Switched (a a' : Adapter) (slot : Nat) (on : Bool) : Prop :=
  ∀ j, a'.runs j = if j = slot then on else a.runs j

theorem Switched.trans {a₁ a₂ a₃ : Adapter} {on on' : Bool} (first : Switched a₁ a₂ slot on)
    (second : Switched a₂ a₃ slot on') : Switched a₁ a₃ slot on' := by
  intro j
  rw [second j]
  by_cases here : j = slot
  · rw [if_pos here, if_pos here]
  · rw [if_neg here, if_neg here, first j, if_neg here]

theorem Moved.isRegistered {h' : Host} {r' : Nat → List UrbIdentity} (moved : Moved h a r h' a' r')
    (j : Nat) : a'.isRegistered j = a.isRegistered j := by
  have same := congrArg (fun plans => plans[j]?) moved.plan
  simp only [List.getElem?_map] at same
  have frontend (b : Adapter) : (b.slots[j]?).bind (·.frontend) =
      ((b.slots[j]?).map Slot.plan).bind (·.2.2) := by
    rw [Option.bind_map]
    rfl
  unfold Adapter.isRegistered
  rw [frontend, frontend, same]

theorem Moved.ready {h' : Host} (moved : Moved h a r h' a' r) (ready : a.Ready r) : a'.Ready r := by
  intro j within
  rw [moved.length] at within
  rw [moved.id]
  exact ready j within

theorem Moved.steady {h' h'' : Host} {r' : Nat → List UrbIdentity} (moved : Moved h a r h' a' r')
    (steady : h'.Steady h'') (bus : h''.bus = h'.bus) : Moved h a r h'' a' r' :=
  { moved with
    exchange := moved.exchange.trans (steady.exchange _)
    foreign := by rw [bus]; exact moved.foreign
    sound := by rw [bus]; exact moved.sound }

theorem Moved.adjust {h' : Host} {r' : Nat → List UrbIdentity} (moved : Moved h a r h' a' r')
    (feeds : Feeds) (gate : Nat) (demux : Option Demux) :
    Moved h a r h' { a' with feeds, gate, demux } r' :=
  { moved with sound := { moved.sound with } }

section Streams

variable {α : Type} {s : Slot}

theorem runs_onStream (h : Host) (there : a.slots[slot]? = some s) (fallback : α)
    (work : Flow → α × Flow) (j : Nat) :
    (onStream h a slot fallback work).2.2.runs j =
      if j = slot then (work { host := h, stream := s.stream }).2.stream.isRunning
      else a.runs j := by
  obtain ⟨h', demux, same, -, -⟩ := onStream_cases h there fallback work
  rw [same]
  have within : slot < a.slots.length := (List.getElem?_eq_some_iff.1 there).1
  by_cases here : j = slot
  · subst here
    simp [runs, within]
  · simp [runs, here, List.getElem?_set_ne (Ne.symm here)]

theorem worked_of_kept (sound : a.Sound r h.bus.queue) (slot : Nat) (fallback : α)
    {work : Flow → α × Flow}
    (kept : ∀ (f : Flow) (roster : List UrbIdentity), f.Sound roster →
      Flow.Kept f (work f).2 ∧ (work f).2.Sound roster) :
    Worked h a r (onStream h a slot fallback work).2.1 (onStream h a slot fallback work).2.2 r := by
  cases there : a.slots[slot]? with
  | none =>
    rw [onStream_missing h there]
    exact Worked.refl sound
  | some s =>
    obtain ⟨still, after⟩ := kept { host := h, stream := s.stream } _ (sound.streams slot s there)
    have worked := worked_onStream sound there fallback work (Flow.Step.of_kept still after)
    rwa [Function.update_eq_self] at worked

theorem worked_stopStream (sound : a.Sound r h.bus.queue) (slot : Nat) :
    Worked h a r (stopStream h a slot).1 (stopStream h a slot).2 r :=
  worked_of_kept sound slot () fun f _ before => ⟨Flow.kept_stop f, Flow.sound_stop before⟩

theorem switched_stopStream (h : Host) (a : Adapter) (slot : Nat) :
    Switched a (stopStream h a slot).2 slot false := by
  intro j
  unfold stopStream
  cases there : a.slots[slot]? with
  | none =>
    rw [onStream_missing h there]
    by_cases here : j = slot
    · subst here
      simp [runs, there]
    · rw [if_neg here]
  | some s => exact runs_onStream h there () _ j

theorem worked_startStream (sound : a.Sound r h.bus.queue) (slot : Nat) :
    Worked h a r (startStream h a slot).2.1 (startStream h a slot).2.2 r :=
  worked_of_kept sound slot (Except.ok ()) fun _ _ before => Flow.kept_sound_start before

theorem switched_startStream (sound : a.Sound r h.bus.queue) (ready : a.Ready r)
    (within : slot < a.slots.length) (idle : a.runs slot = false) :
    Switched a (startStream h a slot).2.2 slot (startStream h a slot).1.isOk := by
  have there : a.slots[slot]? = some a.slots[slot] := List.getElem?_eq_getElem within
  let f : Flow := { host := h, stream := a.slots[slot].stream }
  have before : f.Sound (r (streamId a.id slot)) := sound.streams slot _ there
  have rest : f.stream.submitted = 0 := by
    refine Stream.isRunning_eq_false_iff.1 ?_
    simpa [runs, there] using idle
  -- Being ready it has at least one request, so that a start that succeeds makes it run.
  have positive : 0 < f.stream.prepared := before.prepared_pos.2 (ready slot within)
  have started := Flow.started_start before (by simpa [positive] using before.lane) rest
  have outcome : (startStream h a slot).1 = f.start.1 :=
    onStream_fst h there (Except.ok ()) Flow.start
  intro j
  rw [startStream, runs_onStream h there]
  refine ite_congr rfl (fun _ => ?_) fun _ => rfl
  rw [← startStream, outcome]
  cases result : f.start.1 with
  | ok =>
    have all : f.start.2.stream.submitted = f.stream.prepared := (started.ok result).1
    exact Stream.isRunning_iff.2 (lt_of_lt_of_eq positive all.symm)
  | error e => exact Stream.isRunning_eq_false_iff.2 (started.error e result).1

theorem worked_complete (sound : a.Sound r h.bus.queue) (within : slot < a.slots.length) {u : Urb}
    {queue : List Urb} (removed : Removed h.bus.queue u queue)
    (own : u.key.stream = streamId a.id slot) (fill : Fill) :
    Worked h a r (complete { h with bus := { h.bus with queue } } a slot (u.fill fill)).1
      (complete { h with bus := { h.bus with queue } } a slot (u.fill fill)).2 r ∧
    ∀ j, (complete { h with bus := { h.bus with queue } } a slot (u.fill fill)).2.runs j =
      a.runs j := by
  have there : a.slots[slot]? = some a.slots[slot] := List.getElem?_eq_getElem within
  let f : Flow := { host := h, stream := a.slots[slot].stream }
  have before : f.Sound (r (streamId a.id slot)) := sound.streams slot _ there
  have mine : u.key.stream = f.stream.id := own.trans (sound.ids slot _ there).symm
  -- First off the queue, then whatever the stream does with it.
  have unqueued := Flow.kept_unqueue (f := f) removed mine
  have returned := Flow.returned_complete (u := u.fill fill)
    { f with host := { h with bus := { h.bus with queue } } } (by rw [u.key_fill]; exact mine)
  constructor
  · have worked := worked_onStream sound there () (fun f => ((), f.complete (u.fill fill)))
      (Flow.Step.of_kept (unqueued.trans returned.toKept)
        (Flow.sound_complete before removed mine fill))
    rwa [Function.update_eq_self] at worked
  · intro j
    unfold complete
    rw [runs_onStream _ there]
    by_cases here : j = slot
    · subst here
      rw [if_pos rfl, runs, there]
      exact congrArg (fun submitted => decide (0 < submitted)) returned.submitted
    · rw [if_neg here]

end Streams

theorem startStreaming_spec (sound : a.Sound r h.bus.queue) (ready : a.Ready r)
    (within : slot < a.slots.length) (s : Slot) :
    Worked h a r (startStreaming h a slot s).2.1 (startStreaming h a slot s).2.2 r ∧
      Switched a (startStreaming h a slot s).2.2 slot (startStreaming h a slot s).1.isOk := by
  have stopped := worked_stopStream sound slot
  have off := switched_stopStream h a slot
  unfold startStreaming
  cases first : stopStream h a slot with
  | mk h₁ a₁ =>
    rw [first] at stopped off
    -- From here on each failure leaves the stream stopped, as it was found.
    have asked := stopped.perform (.streaming a₁.id true) rfl
    dsimp only
    split
    next e h₂ refused =>
      rw [refused] at asked
      exact ⟨asked, off⟩
    next h₂ granted =>
      rw [granted] at asked
      have idle : a₁.runs slot = false := by simpa using off slot
      have within₁ : slot < a₁.slots.length := by rwa [asked.length]
      have started := worked_startStream asked.sound slot
      have on := switched_startStream asked.sound (asked.ready ready) within₁ idle
      split
      next e h₃ a₃ failed =>
        rw [failed] at started on
        exact ⟨(asked.trans started).perform _ rfl, off.trans on⟩
      next h₃ a₃ succeeded =>
        rw [succeeded] at started on
        have both := asked.trans started
        split
        next =>
          have set := both.perform (.pidFilterControl a₃.id s.filtering.isHardware) rfl
          split
          next e h₄ failed =>
            rw [failed] at set
            have halted := worked_stopStream set.sound slot
            have down := switched_stopStream h₄ a₃ slot
            exact ⟨(set.trans halted).perform _ rfl, (off.trans on).trans down⟩
          next h₄ succeeded =>
            rw [succeeded] at set
            exact ⟨set, off.trans on⟩
        next => exact ⟨both, off.trans on⟩

theorem feedSlot_ok {s : Slot} (found : a.feedSlot = .ok (slot, s)) :
    a.feeds.streaming.or a.feeds.active = some slot ∧ a.slots[slot]? = some s := by
  unfold feedSlot at found
  split at found
  next => cases found
  next owner =>
    split at found
    next => cases found
    next there =>
      cases found
      exact ⟨owner, there⟩

theorem addFeed_cases (h : Host) (a : Adapter) (s : Slot) (feed : Feed) :
    ∃ demux, (addFeed h a s feed).2 =
        { a with
          feeds := { a.feeds with count := a.feeds.count + 1 }
          gate := a.feeds.count + 1
          demux } ∧
      h.Steady (addFeed h a s feed).1 ∧ (addFeed h a s feed).1.bus = h.bus := by
  refine ⟨_, rfl, ?_, ?_⟩
  · have noted : h.Steady (h.note (.gated a.id (a.feeds.count + 1))) := Host.steady_note h rfl
    simp only [addFeed, setGate]
    split
    next => exact noted.trans (Host.steady_perform _ _ rfl)
    next => exact noted
  · simp only [addFeed, setGate]
    split <;> rfl

theorem fed_addFeed {h₁ : Host} {a₁ : Adapter} (moved : Moved h a r h₁ a₁ r)
    (streaming : ∀ j, a₁.runs j = true ↔ a₁.feeds.streaming = some j)
    (active : ∀ j, a₁.feeds.streaming = some j → a₁.feeds.active = some j)
    (registered : ∀ j, a₁.feeds.active = some j → a₁.isRegistered j = true)
    (s : Slot) (feed : Feed) :
    Moved h a r (addFeed h₁ a₁ s feed).1 (addFeed h₁ a₁ s feed).2 r ∧
      (addFeed h₁ a₁ s feed).2.Steered ∧
      (addFeed h₁ a₁ s feed).2.feeds.count = a₁.feeds.count + 1 := by
  obtain ⟨demux, same, steady, bus⟩ := addFeed_cases h₁ a₁ s feed
  have settled := moved.steady steady bus
  rw [same]
  refine ⟨settled.adjust _ _ demux, ?_, rfl⟩
  exact
    { streaming
      active := fun j busy => ⟨active j busy, Nat.le_add_left ..⟩
      gate := rfl
      registered }

theorem steered_rest (none : a.feeds.streaming = none) (rest : ∀ j, a.runs j = false)
    (gate : a.gate = a.feeds.count)
    (registered : ∀ j, a.feeds.active = some j → a.isRegistered j = true) : a.Steered where
  streaming j := by simp [rest, none]
  active j busy := by
    rw [none] at busy
    cases busy
  gate := gate
  registered := registered

theorem Steered.rest (steered : a.Steered) (none : a.feeds.streaming = none) (j : Nat) :
    a.runs j = false := by
  have off := steered.streaming j
  rw [none] at off
  simpa using off

theorem firstFeed_spec (sound : a.Sound r h.bus.queue) (ready : a.Ready r) (steered : a.Steered)
    (none : a.feeds.streaming = none) (awake : a.feeds.active = some slot)
    (within : slot < a.slots.length) (s : Slot) (feed : Feed) :
    let opened := setGate h a (a.feeds.count + 1)
    match startStreaming opened.1 opened.2 slot s with
    | (.error _, h₁, a₁) =>
      Moved h a r (setGate h₁ a₁ a₁.feeds.count).1 (setGate h₁ a₁ a₁.feeds.count).2 r ∧
        (setGate h₁ a₁ a₁.feeds.count).2.Steered ∧ a₁.feeds.count = a.feeds.count
    | (.ok _, h₁, a₁) =>
      let a₂ := { a₁ with feeds := { a₁.feeds with streaming := a₁.feeds.active } }
      Moved h a r (addFeed h₁ a₂ s feed).1 (addFeed h₁ a₂ s feed).2 r ∧
        (addFeed h₁ a₂ s feed).2.Steered ∧
        (addFeed h₁ a₂ s feed).2.feeds.count = a.feeds.count + 1 := by
  intro opened
  -- The gate is open before there is a feed, which a failure has to take back.
  have shown : Moved h a r opened.1 opened.2 r :=
    ((Moved.refl sound).adjust a.feeds (a.feeds.count + 1) a.demux).steady (Host.steady_note h rfl)
      rfl
  have rest (j : Nat) : opened.2.runs j = false := steered.rest none j
  obtain ⟨worked, switched⟩ := startStreaming_spec shown.sound ready within s
  have moved := shown.trans worked.toMoved
  have feeds : (startStreaming opened.1 opened.2 slot s).2.2.feeds = a.feeds := worked.feeds
  have registered (j : Nat) (active : a.feeds.active = some j) :
      (startStreaming opened.1 opened.2 slot s).2.2.isRegistered j = true :=
    (moved.isRegistered j).trans (steered.registered j active)
  split
  next e h₁ a₁ failed =>
    rw [failed] at moved switched feeds registered
    refine ⟨?_, ?_, congrArg Feeds.count feeds⟩
    · exact (moved.adjust a₁.feeds a₁.feeds.count a₁.demux).steady (Host.steady_note h₁ rfl) rfl
    · refine steered_rest ((congrArg Feeds.streaming feeds).trans none) (fun j => ?_) rfl
        fun j active => registered j ((congrArg Feeds.active feeds).symm.trans active)
      refine (switched j).trans ?_
      rw [rest j]
      exact ite_self _
  next h₁ a₁ succeeded =>
    rw [succeeded] at moved switched feeds registered
    have active : a₁.feeds.active = a.feeds.active := congrArg Feeds.active feeds
    -- The slot whose stream was started is the one that is awake.
    obtain ⟨settled, again, count⟩ := fed_addFeed
      (moved.adjust { a₁.feeds with streaming := a₁.feeds.active } a₁.gate a₁.demux)
      (fun j => by
        show a₁.runs j = true ↔ a₁.feeds.active = some j
        rw [switched j, active, awake, rest j]
        by_cases here : j = slot
        · simp [here, Except.isOk, Except.toBool]
        · simp [here, Ne.symm here])
      (fun j busy => busy)
      (fun j awake => registered j (active.symm.trans awake)) s feed
    exact ⟨settled, again, count.trans (congrArg (·.count + 1) feeds)⟩

theorem startFeed_spec (sound : a.Sound r h.bus.queue) (ready : a.Ready r) (steered : a.Steered)
    (feed : Feed) :
    Moved h a r (startFeed h a feed).2.1 (startFeed h a feed).2.2 r ∧
      (startFeed h a feed).2.2.Steered ∧
      (startFeed h a feed).2.2.feeds.count =
        a.feeds.count + (startFeed h a feed).1.isOk.toNat := by
  have unchanged (e : Failure) :
      Moved h a r h a r ∧ a.Steered ∧
        a.feeds.count = a.feeds.count + (Except.error e : Except Failure Unit).isOk.toNat :=
    ⟨Moved.refl sound, steered, rfl⟩
  unfold startFeed
  split
  next => exact unchanged _
  next =>
    split
    next => exact unchanged _
    next slot s found =>
      split
      next => exact unchanged _
      next =>
        obtain ⟨owner, there⟩ := feedSlot_ok found
        have within : slot < a.slots.length := (List.getElem?_eq_some_iff.1 there).1
        split
        -- A stream is running already, and the feed joins it.
        next busy =>
          exact fed_addFeed (Moved.refl sound) steered.streaming
            (fun j here => (steered.active j here).1) steered.registered s feed
        next idle =>
          have none : a.feeds.streaming = none := by simpa using idle
          have awake : a.feeds.active = some slot := by simpa [none] using owner
          have first := firstFeed_spec sound ready steered none awake within s feed
          dsimp only at first ⊢
          split
          next failed =>
            rw [failed] at first
            exact first
          next succeeded =>
            rw [succeeded] at first
            exact first

theorem Steered.within (steered : a.Steered) (busy : a.feeds.streaming = some slot) :
    slot < a.slots.length := by
  have registered := steered.registered slot (steered.active slot busy).1
  unfold isRegistered at registered
  cases there : a.slots[slot]? with
  | none => simp [there] at registered
  | some s => exact (List.getElem?_eq_some_iff.1 there).1

theorem Steered.streaming_filter (steered : a.Steered) :
    (a.feeds.streaming.filter fun slot => slot < a.slots.length) = a.feeds.streaming := by
  cases busy : a.feeds.streaming with
  | none => rfl
  | some slot => simp [steered.within busy]

theorem rest_stopStream {h₁ : Host} {a₁ : Adapter} (steered : a.Steered)
    (moved : Moved h a r h₁ a₁ r) (runs : ∀ j, a₁.runs j = a.runs j)
    (busy : a.feeds.streaming = some slot) :
    Moved h a r (stopStream h₁ a₁ slot).1 (stopStream h₁ a₁ slot).2 r ∧
      (∀ j, (stopStream h₁ a₁ slot).2.runs j = false) ∧
      (stopStream h₁ a₁ slot).2.feeds = a₁.feeds ∧ (stopStream h₁ a₁ slot).2.gate = a₁.gate := by
  have stopped := worked_stopStream moved.sound slot
  refine ⟨moved.trans stopped.toMoved, fun j => ?_, stopped.feeds, stopped.gate⟩
  rw [switched_stopStream h₁ a₁ slot j, runs j]
  by_cases here : j = slot
  · exact if_pos here
  -- No other stream was running in the first place.
  · rw [if_neg here]
    have off := steered.streaming j
    rw [busy] at off
    simpa [Ne.symm here] using off

theorem stopFeed_spec (sound : a.Sound r h.bus.queue) (steered : a.Steered) (feed : Feed) :
    Moved h a r (stopFeed h a feed).2.1 (stopFeed h a feed).2.2 r ∧
      (stopFeed h a feed).2.2.Steered ∧
      (stopFeed h a feed).2.2.feeds.count = a.feeds.count - 1 := by
  unfold stopFeed
  split
  next none =>
    refine ⟨Moved.refl sound, steered, ?_⟩
    dsimp only
    omega
  next some =>
    -- The slot that streams has a frontend, so that it is one of the adapter's.
    rw [steered.streaming_filter]
    dsimp only [watch, setGate]
    generalize (a.feeds.streaming.any fun slot =>
      (a.slots[slot]?).any (·.filtering.isHardware)) = filters
    have asked : h.Steady (if filters = true then
        (h.perform (.pidFilter a.id feed.index feed.pid false)).2 else h) := by
      split
      next => exact Host.steady_perform h _ rfl
      next => exact Host.Steady.refl h
    have bus : (if filters = true then
        (h.perform (.pidFilter a.id feed.index feed.pid false)).2 else h).bus = h.bus := by
      split <;> rfl
    generalize (if filters = true then
        (h.perform (.pidFilter a.id feed.index feed.pid false)).2 else h) = h₁ at asked bus ⊢
    have shown : h₁.Steady (h₁.note (.gated a.id (a.feeds.count - 1))) := Host.steady_note h₁ rfl
    have counted := ((Moved.refl sound).adjust { a.feeds with count := a.feeds.count - 1 }
      (a.feeds.count - 1) (a.demux.map (·.watch feed.pid false))).steady (asked.trans shown) bus
    split
    next more =>
      exact ⟨counted,
        { steered with active := fun j busy => ⟨(steered.active j busy).1, more⟩, gate := rfl }, rfl⟩
    next last =>
      split
      next idle =>
        exact ⟨counted, steered_rest idle (steered.rest idle) rfl steered.registered, rfl⟩
      next slot busy =>
        obtain ⟨stopped, rest, feeds, gate⟩ := rest_stopStream steered
          (counted.adjust { a.feeds with count := a.feeds.count - 1, streaming := none }
            (a.feeds.count - 1) (a.demux.map (·.watch feed.pid false))) (fun _ => rfl) busy
        generalize stopStream _ _ slot = result at stopped rest feeds gate ⊢
        have told := stopped.steady
          (Host.steady_perform result.1 (.streaming result.2.id false) rfl) rfl
        have settled : result.2.Steered := by
          refine steered_rest (congrArg Feeds.streaming feeds) rest ?_ fun j awake => ?_
          · rw [gate, feeds]
          · rw [feeds] at awake
            exact (stopped.isRegistered j).trans (steered.registered j awake)
        have count : result.2.feeds.count = a.feeds.count - 1 := congrArg Feeds.count feeds
        split
        next outcome =>
          rw [outcome] at told
          exact ⟨told, settled, count⟩
        next outcome =>
          rw [outcome] at told
          exact ⟨told, settled, count⟩

theorem Worked.steered {h' : Host} {r' : Nat → List UrbIdentity} (worked : Worked h a r h' a' r')
    (runs : ∀ j, a'.runs j = a.runs j) (steered : a.Steered) : a'.Steered where
  streaming j := by
    rw [runs, worked.feeds]
    exact steered.streaming j
  active := by
    rw [worked.feeds]
    exact steered.active
  gate := by
    rw [worked.gate, worked.feeds]
    exact steered.gate
  registered j awake := by
    rw [worked.feeds] at awake
    exact (worked.isRegistered j).trans (steered.registered j awake)

theorem select_spec (sound : a.Sound r h.bus.queue) (steered : a.Steered)
    (registered : a.isRegistered slot = true) (selected : a.select slot = .ok a') :
    Moved h a r h a' r ∧ a'.Steered ∧ a'.feeds.count = a.feeds.count := by
  unfold select at selected
  split at selected
  next => cases selected
  next free =>
    cases selected
    refine ⟨(Moved.refl sound).adjust { a.feeds with active := some slot } a.gate a.demux, ?_, rfl⟩
    exact
      { steered with
        -- A slot that streams cannot lose the selection to another one.
        active := fun j busy => by
          have busy : a.feeds.streaming = some j := busy
          have same : j = slot := by simpa [busy] using free
          exact ⟨congrArg some same.symm, (steered.active j busy).2⟩
        registered := fun j awake => by
          cases awake
          exact registered }

theorem deselect_spec (sound : a.Sound r h.bus.queue) (steered : a.Steered) (slot : Nat) :
    Moved h a r (deselect h a slot).1 (deselect h a slot).2 r ∧ (deselect h a slot).2.Steered ∧
      (deselect h a slot).2.feeds.count = a.feeds.count := by
  -- Only the selection of this very slot is given up.
  have asleep : ∃ active, (if a.feeds.active = some slot then
        { a with feeds := { a.feeds with active := none } } else a) =
      { a with feeds := { a.feeds with active } } ∧
      ∀ j, active = some j ↔ a.feeds.active = some j ∧ j ≠ slot := by
    by_cases awake : a.feeds.active = some slot
    · refine ⟨none, if_pos awake, fun j => ?_⟩
      simp [awake, Ne.symm, eq_comm]
    · refine ⟨a.feeds.active, if_neg awake, fun j => ?_⟩
      exact ⟨fun here => ⟨here, fun same => awake (same ▸ here)⟩, And.left⟩
  obtain ⟨active, same, others⟩ := asleep
  unfold deselect
  rw [same]
  dsimp only
  have released := (Moved.refl sound).adjust { a.feeds with active } a.gate a.demux
  split
  next busy =>
    obtain ⟨stopped, rest, feeds, gate⟩ :=
      rest_stopStream steered released (fun _ => rfl) busy
    generalize stopStream _ _ slot = result at stopped rest feeds gate ⊢
    have told := stopped.steady
      (Host.steady_perform result.1 (.streaming result.2.id false) rfl) rfl
    have count : result.2.feeds.count = a.feeds.count := by rw [feeds]
    refine ⟨told.adjust { result.2.feeds with streaming := none } result.2.gate result.2.demux, ?_,
      count⟩
    refine steered_rest rfl rest ?_ fun j awake => ?_
    · show result.2.gate = result.2.feeds.count
      rw [gate, feeds]
      exact steered.gate
    · have awake : result.2.feeds.active = some j := awake
      rw [feeds] at awake
      exact (stopped.isRegistered j).trans (steered.registered j ((others j).1 awake).1)
  next other =>
    refine ⟨released, ?_, rfl⟩
    exact
      { steered with
        active := fun j busy => by
          have different : j ≠ slot := fun here => other (here ▸ busy)
          have before := steered.active j busy
          exact ⟨(others j).2 ⟨before.1, different⟩, before.2⟩
        registered := fun j awake => steered.registered j ((others j).1 awake).1 }

end DvbReceiver.Adapter
