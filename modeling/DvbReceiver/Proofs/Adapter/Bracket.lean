import DvbReceiver.Proofs.Adapter.Exit
import DvbReceiver.Proofs.Adapter.BringUp
import DvbReceiver.Proofs.Adapter.Steps
import DvbReceiver.Proofs.Stream.Bracket

set_option autoImplicit false

namespace DvbReceiver.Adapter

open Host (Bracket)

variable {h₀ h : Host} {a : Adapter} {r : Nat → List UrbIdentity} {slot : Nat} {on : Nat → Bool}

def Alone (a : Adapter) (queue : List Urb) : Prop :=
  ∀ u ∈ queue, u.key.adapter = a.id → a.Owns u.key.stream

theorem Confined.alone {h' : Host} {a' : Adapter} {r' : Nat → List UrbIdentity}
    (confined : Confined h a r h' a' r') (alone : a.Alone h.bus.queue) :
    a'.Alone h'.bus.queue := by
  intro u queued number
  rw [confined.owns]
  by_contra foreign
  have here : u ∈ ofStream u.key.stream h'.bus.queue := List.mem_filter.2 ⟨queued, by simp⟩
  rw [(confined.foreign _ foreign).1] at here
  exact foreign (alone u (List.mem_filter.1 here).1 (number.trans confined.id))

theorem Alone.idle {queue : List Urb} (alone : a.Alone queue) (sound : a.Sound r queue)
    (rest : ∀ j, a.runs j = false) : ∀ u ∈ queue, u.key.adapter ≠ a.id := by
  intro u queued number
  obtain ⟨j, within, own⟩ := alone u queued number
  have there : a.slots[j]? = some a.slots[j] := List.getElem?_eq_getElem within
  have still : a.slots[j].stream.submitted = 0 := by
    refine Stream.isRunning_eq_false_iff.1 ?_
    simpa [runs, there] using rest j
  have idle := (sound.streams j _ there).idle still
  rw [sound.ids j _ there] at idle
  exact ofStream_eq_nil_iff.1 idle u queued own

theorem Sound.adapter_of_slot {queue : List Urb} {s : Slot} (sound : a.Sound r queue)
    (there : a.slots[slot]? = some s) : s.stream.id / maxFrontends = a.id := by
  rw [sound.ids slot s there]
  exact sound.number ⟨slot, (List.getElem?_eq_some_iff.1 there).1, rfl⟩

section Streams

theorem bracket_offer (bracket : Bracket h₀ h on) (a : Adapter) (slices : List Bytes) :
    Bracket h₀ (offer h a slices).1 on := by
  unfold offer
  split
  next => exact bracket
  next =>
    split
    next => exact bracket
    next => exact bracket.noteAll (by simp [Event.isPlain])

theorem bracket_onStream {α : Type} {fallback : α} {work : Flow → α × Flow}
    (bracket : Bracket h₀ h on)
    (flow : ∀ s, a.slots[slot]? = some s →
      Bracket h₀ (work { host := h, stream := s.stream }).2.host on) :
    Bracket h₀ (onStream h a slot fallback work).2.1 on := by
  unfold onStream
  split
  next => exact bracket
  next s there => exact bracket_offer (flow s there) _ _

theorem bracket_stopStream (bracket : Bracket h₀ h on) (a : Adapter) (slot : Nat) :
    Bracket h₀ (stopStream h a slot).1 on :=
  bracket_onStream bracket fun s _ =>
    Flow.bracket_stop (f := { host := h, stream := s.stream }) bracket

theorem bracket_releaseStream (bracket : Bracket h₀ h on) (a : Adapter) (slot : Nat) :
    Bracket h₀ (releaseStream h a slot).1 on :=
  bracket_onStream bracket fun s _ =>
    Flow.bracket_release (f := { host := h, stream := s.stream }) bracket

theorem bracket_startStream (bracket : Bracket h₀ h on) (sound : a.Sound r h.bus.queue)
    (streaming : on a.id = true) (slot : Nat) : Bracket h₀ (startStream h a slot).2.1 on :=
  bracket_onStream bracket fun s there => by
    refine Flow.bracket_start (f := { host := h, stream := s.stream }) bracket
      (sound.streams slot s there) ?_
    rw [sound.adapter_of_slot there]
    exact streaming

theorem bracket_complete {u : Urb} {queue : List Urb} (bracket : Bracket h₀ h on)
    (sound : a.Sound r h.bus.queue) (steered : a.Steered)
    (streaming : on a.id = a.feeds.streaming.isSome) (removed : Removed h.bus.queue u queue)
    (own : u.key.stream = streamId a.id slot) (within : slot < a.slots.length) (fill : Fill) :
    Bracket h₀
      (complete { h with bus := { h.bus with queue } } a slot (u.fill fill)).1 on := by
  have there : a.slots[slot]? = some a.slots[slot] := List.getElem?_eq_getElem within
  -- What was with the bus belongs to the stream that runs, and that one is switched on.
  have running : a.runs slot = true := by
    by_contra rest
    have still : a.slots[slot].stream.submitted = 0 := by
      refine Stream.isRunning_eq_false_iff.1 ?_
      simpa [runs, there] using rest
    have idle := (sound.streams slot _ there).idle still
    rw [sound.ids slot _ there] at idle
    exact ofStream_eq_nil_iff.1 idle u removed.mem own
  have key : (u.fill fill).key = u.key := u.key_fill fill
  have switched : on (u.fill fill).key.adapter = true := by
    rw [key, UrbKey.adapter, own, sound.number ⟨slot, within, rfl⟩, streaming,
      (steered.streaming slot).1 running]
    rfl
  let host : Host := { h with bus := { h.bus with queue } }
  unfold complete onStream
  rw [there]
  refine bracket_offer ?_ _ _
  exact Flow.bracket_complete (f := { host := h, stream := a.slots[slot].stream }) bracket host rfl
    removed key fun _ => switched

end Streams

section Feeds

theorem bracket_streamingOff (bracket : Bracket h₀ h on) (alone : a.Alone h.bus.queue)
    (sound : a.Sound r h.bus.queue) (rest : ∀ j, a.runs j = false) (streaming : on a.id = true) :
    Bracket h₀ (h.perform (.streaming a.id false)).2 (Function.update on a.id false) :=
  bracket.switchOff sound.known streaming (alone.idle sound rest)

/-- Whoever fails after the receiver's stream was switched on has to switch it off again. -/
theorem bracket_undone {h' : Host} {a' : Adapter} (worked : Worked h a r h' a' r)
    (alone : a.Alone h.bus.queue) (bracket : Bracket h₀ h' (Function.update on a.id true))
    (rest : ∀ j, a'.runs j = false) :
    Bracket h₀ (streamingOff h' a') (Function.update on a.id false) := by
  rw [← worked.id] at bracket ⊢
  have down := bracket_streamingOff bracket (worked.alone alone) worked.sound rest
    (Function.update_self ..)
  rwa [Function.update_idem] at down

theorem bracket_startStreaming (bracket : Bracket h₀ h on) (alone : a.Alone h.bus.queue)
    (sound : a.Sound r h.bus.queue) (ready : a.Ready r) (rest : ∀ j, a.runs j = false)
    (off : on a.id = false) (within : slot < a.slots.length) (s : Slot) :
    Bracket h₀ (startStreaming h a slot s).2.1
      (Function.update on a.id (startStreaming h a slot s).1.isOk) := by
  have stopped := worked_stopStream sound slot
  have halted := switched_stopStream h a slot
  have bracket₁ := bracket_stopStream bracket a slot
  -- Whichever step fails once the switch is on, no slot is left running when it goes off again.
  unfold startStreaming
  cases first : stopStream h a slot with
  | mk h₁ a₁ =>
    rw [first] at stopped halted bracket₁
    rw [← stopped.id] at off ⊢
    have switched := bracket₁.switchOn off
    have rest₁ (j : Nat) : a₁.runs j = false := by
      rw [halted j, rest j]
      exact ite_self _
    have alone₁ := stopped.alone alone
    have asked := (Worked.refl stopped.sound).perform (.streaming a₁.id true) rfl
    dsimp only
    split
    next e h₂ refused =>
      rw [refused] at switched
      exact switched
    next h₂ granted =>
      rw [granted] at switched asked
      have switched : Bracket h₀ h₂ (Function.update on a₁.id true) := switched
      have on₁ : Function.update on a₁.id true a₁.id = true := Function.update_self ..
      have both := asked.trans (worked_startStream asked.sound slot)
      have started := switched_startStream asked.sound (stopped.ready ready)
        (by rw [stopped.length]; exact within) (rest₁ slot)
      have bracket₃ := bracket_startStream switched asked.sound on₁ slot
      split
      next e h₃ a₃ refused =>
        rw [refused] at both started bracket₃
        refine bracket_undone both alone₁ bracket₃ fun j => ?_
        rw [started j, rest₁ j]
        exact ite_self _
      next h₃ a₃ running =>
        rw [running] at both started bracket₃
        have id₃ : a₃.id = a₁.id := both.id
        split
        next =>
          have set := both.perform (.pidFilterControl a₃.id s.filtering.isHardware) rfl
          have bracket₄ := bracket₃.filterControl (i := a₃.id) (by rw [id₃]; exact on₁)
            s.filtering.isHardware
          split
          next e h₄ failed =>
            rw [failed] at set bracket₄
            have last := switched_stopStream h₄ a₃ slot
            refine bracket_undone (set.trans (worked_stopStream set.sound slot)) alone₁
              (bracket_stopStream bracket₄ a₃ slot) fun j => ?_
            rw [last j, started j, rest₁ j]
            by_cases here : j = slot
            · exact if_pos here
            · rw [if_neg here, if_neg here]
          next h₄ succeeded =>
            rw [succeeded] at bracket₄
            exact bracket₄
        next => exact bracket₃

theorem bracket_stopStreaming (bracket : Bracket h₀ h on) (alone : a.Alone h.bus.queue)
    (sound : a.Sound r h.bus.queue) (only : ∀ j, a.runs j = true → j = slot)
    (streaming : on a.id = true) :
    Bracket h₀ (stopStreaming h a slot).1 (Function.update on a.id false) := by
  let b : Adapter := { a with feeds := { a.feeds with streaming := none } }
  have soundb : b.Sound r h.bus.queue := { sound with }
  have stopped := worked_stopStream soundb slot
  have id : (stopStream h b slot).2.id = a.id := stopped.id
  have rest (j : Nat) : (stopStream h b slot).2.runs j = false := by
    rw [switched_stopStream h b slot j]
    by_cases here : j = slot
    · exact if_pos here
    · rw [if_neg here, Bool.eq_false_iff]
      exact fun running => here (only j running)
  have down := bracket_streamingOff (bracket_stopStream bracket b slot) (stopped.alone alone)
    stopped.sound rest (by rw [id]; exact streaming)
  rw [← id]
  exact down

theorem bracket_addFeed (bracket : Bracket h₀ h on) (streaming : on a.id = true) (s : Slot)
    (feed : Feed) : Bracket h₀ (addFeed h a s feed).1 on := by
  have noted : Bracket h₀ (h.note (.gated a.id (a.feeds.count + 1))) on := bracket.note rfl
  simp only [addFeed, setGate]
  split
  next => exact noted.filter streaming feed.index feed.pid true
  next => exact noted

theorem bracket_removeFeed (bracket : Bracket h₀ h on)
    (streaming : on a.id = a.feeds.streaming.isSome) (feed : Feed) :
    Bracket h₀ (removeFeed h a feed).1 on := by
  refine Bracket.note ?_ rfl
  split
  next filters =>
    -- Only a slot that streams can have a table entry to clear.
    obtain ⟨slot, busy, -⟩ := (Option.any_eq_true _ _).1 filters
    refine bracket.filter ?_ feed.index feed.pid false
    rw [streaming, busy]
    rfl
  next => exact bracket

/-- The receiver's stream is switched on as long as one of the slots streams. -/
theorem bracket_startFeed (bracket : Bracket h₀ h on) (alone : a.Alone h.bus.queue)
    (sound : a.Sound r h.bus.queue) (ready : a.Ready r) (steered : a.Steered)
    (streaming : on a.id = a.feeds.streaming.isSome) (feed : Feed) :
    Bracket h₀ (startFeed h a feed).2.1
      (Function.update on a.id (startFeed h a feed).2.2.feeds.streaming.isSome) := by
  -- The first feed starts the stream, whether or not it comes to be counted.
  have started {slot : Nat} {s : Slot} (none : a.feeds.streaming = none)
      (there : a.slots[slot]? = some s) :
      let opened := setGate h a (a.feeds.count + 1)
      let result := startStreaming opened.1 opened.2 slot s
      Bracket h₀ result.2.1 (Function.update on a.id result.1.isOk) ∧ result.2.2.id = a.id ∧
        result.2.2.feeds = a.feeds := by
    intro opened result
    have shown : Bracket h₀ opened.1 on := bracket.note rfl
    have off : on opened.2.id = false := by
      show on a.id = false
      rw [streaming, none]
      rfl
    have worked := worked_first sound ready there
    refine ⟨?_, worked.id, worked.feeds⟩
    exact bracket_startStreaming (a := opened.2) shown alone { sound with } ready
      (steered.rest none) off (List.getElem?_eq_some_iff.1 there).1 s
  have starting := starting_startFeed h a feed
  generalize startFeed h a feed = result at starting ⊢
  cases starting with
  | refused e =>
    rw [← streaming, Function.update_eq_self]
    exact bracket
  | joined slot s busy =>
    have same : (addFeed h a s feed).2.feeds.streaming = a.feeds.streaming := rfl
    rw [same, ← streaming, Function.update_eq_self]
    exact bracket_addFeed bracket (by rw [streaming, busy]; rfl) s feed
  | failed slot s e h₁ a₁ none awake there failed =>
    obtain ⟨bracket₁, -, feeds⟩ := started none there
    rw [failed] at bracket₁ feeds
    have same : (setGate h₁ a₁ a₁.feeds.count).2.feeds.streaming = Option.none :=
      (congrArg Feeds.streaming feeds).trans none
    rw [same]
    exact bracket₁.note rfl
  | first slot s h₁ a₁ none awake there succeeded =>
    obtain ⟨bracket₁, id, feeds⟩ := started none there
    rw [succeeded] at bracket₁ id feeds
    have same : (addFeed h₁ { a₁ with feeds := { a₁.feeds with streaming := a₁.feeds.active } } s
        feed).2.feeds.streaming = some slot := (congrArg Feeds.active feeds).trans awake
    have id : a₁.id = a.id := id
    rw [same]
    refine bracket_addFeed bracket₁ ?_ s feed
    show Function.update on a.id _ a₁.id = true
    rw [id, Function.update_self]
    rfl

theorem bracket_stopFeed (bracket : Bracket h₀ h on) (alone : a.Alone h.bus.queue)
    (sound : a.Sound r h.bus.queue) (steered : a.Steered)
    (streaming : on a.id = a.feeds.streaming.isSome) (feed : Feed) :
    Bracket h₀ (stopFeed h a feed).2.1
      (Function.update on a.id (stopFeed h a feed).2.2.feeds.streaming.isSome) := by
  obtain unfed | fed := Nat.eq_zero_or_pos a.feeds.count
  next =>
    have unchanged : stopFeed h a feed = (.ok (), h, a) := if_pos unfed
    rw [unchanged, ← streaming, Function.update_eq_self]
    exact bracket
  next =>
    have removed := bracket_removeFeed bracket streaming feed
    rw [stopFeed_of_pos steered fed]
    -- Unless this was the last feed, the stream goes on.
    cases last : (if 1 < a.feeds.count then none else a.feeds.streaming) with
    | none =>
      have same : (removeFeed h a feed).2.feeds.streaming = a.feeds.streaming := rfl
      rw [Option.elim_none, same, ← streaming, Function.update_eq_self]
      exact removed
    | some slot =>
      have busy : a.feeds.streaming = some slot := by
        split at last
        next => cases last
        next => exact last
      have bus := bus_removeFeed h a feed
      have sound₁ : (removeFeed h a feed).2.Sound r (removeFeed h a feed).1.bus.queue := by
        rw [bus]
        exact { sound with }
      have alone₁ : (removeFeed h a feed).2.Alone (removeFeed h a feed).1.bus.queue := by
        rw [bus]
        exact alone
      have down := bracket_stopStreaming removed alone₁ sound₁ (steered.only busy)
        (streaming.trans (congrArg _ busy))
      rw [Option.elim_some, feeds_stopStreaming]
      exact down

theorem bracket_deselect (bracket : Bracket h₀ h on) (alone : a.Alone h.bus.queue)
    (sound : a.Sound r h.bus.queue) (steered : a.Steered)
    (streaming : on a.id = a.feeds.streaming.isSome) (slot : Nat) :
    Bracket h₀ (deselect h a slot).1
      (Function.update on a.id (deselect h a slot).2.feeds.streaming.isSome) := by
  obtain ⟨active, same⟩ := asleep_eq a slot
  rw [deselect_eq, same]
  split
  next busy =>
    have down := bracket_stopStreaming (a := { a with feeds := { a.feeds with active } }) bracket
      alone { sound with } (steered.only busy) (streaming.trans (congrArg _ busy))
    rw [feeds_stopStreaming]
    exact down
  next =>
    show Bracket h₀ h (Function.update on a.id a.feeds.streaming.isSome)
    rw [← streaming, Function.update_eq_self]
    exact bracket

end Feeds

section Lifecycle

theorem bracket_prepareStreams (bracket : Bracket h₀ h on) (a : Adapter) (count slot : Nat) :
    Bracket h₀ (prepareStreams count slot h a).2.1 on := by
  induction count generalizing slot h a with
  | zero => exact bracket
  | succ count ih =>
    unfold prepareStreams
    dsimp only
    cases there : a.slots[slot]? with
    | none =>
      rw [onStream_missing h there]
      exact ih bracket a (slot + 1)
    | some s =>
      have prepared : Bracket h₀
          (onStream h a slot (.ok ()) fun f => f.prepare s.props.layout).2.1 on :=
        bracket_onStream bracket fun s' _ =>
          Flow.bracket_prepare (f := { host := h, stream := s'.stream }) bracket s.props.layout
      dsimp only
      split
      next outcome =>
        rw [outcome] at prepared
        exact prepared
      next h₁ a₁ outcome =>
        rw [outcome] at prepared
        exact ih prepared a₁ (slot + 1)

theorem bracket_attach (bracket : Bracket h₀ h on) (adapter slot : Nat) (i2c : Option String) :
    Bracket h₀ (attach h adapter slot i2c).2 on := by
  have asked := bracket.call (.frontendAttach adapter slot) fun _ => rfl
  unfold attach
  dsimp only
  split
  next called =>
    rw [called] at asked
    exact asked
  next called =>
    rw [called] at asked
    exact asked
  next called =>
    rw [called] at asked
    split
    next => exact asked.note rfl
    next =>
      have reached := asked.call (.i2cTransfer 1) fun _ => rfl
      split
      next => exact reached
      next => exact reached.note rfl

theorem bracket_register (bracket : Bracket h₀ h on) {what : Registration}
    {result : Except Failure Unit} {h' : Host} (outcome : register h what = (result, h')) :
    Bracket h₀ h' on := by
  have same : (register h what).2 = h' := congrArg Prod.snd outcome
  rw [← same]
  exact bracket.of_eq rfl rfl

theorem bracket_unregister (bracket : Bracket h₀ h on) (known : Bool) (place : Place) :
    Bracket h₀ (if known then unregister h place else h) on := by
  split
  next => exact bracket.of_eq rfl rfl
  next => exact bracket

theorem bracket_attachFrontends (bracket : Bracket h₀ h on) (i2c : Option String) (a : Adapter)
    (count slot : Nat) : Bracket h₀ (attachFrontends i2c count slot h a).2.1 on := by
  induction count generalizing slot h a with
  | zero => exact bracket
  | succ count ih =>
    have attached := bracket_attach bracket a.id slot i2c
    unfold attachFrontends
    split
    next outcome =>
      rw [outcome] at attached
      exact attached
    next h₁ outcome =>
      rw [outcome] at attached
      exact ih attached a (slot + 1)
    next name h₁ outcome =>
      rw [outcome] at attached
      split
      next refused => exact (bracket_register attached refused).perform _ fun _ => rfl
      next granted =>
        have known := bracket_register attached granted
        exact ih (known.perform _ fun _ => rfl) _ (slot + 1)

theorem bracket_bringUp (bracket : Bracket h₀ h on) (a : Adapter) (name : String)
    (i2c : Option String) : Bracket h₀ (a.bringUp h name i2c).2.1 on := by
  have prepared := bracket_prepareStreams bracket a a.slots.length 0
  unfold bringUp
  split
  next outcome =>
    rw [outcome] at prepared
    exact prepared
  next outcome =>
    rw [outcome] at prepared
    split
    next refused => exact bracket_register prepared refused
    next granted =>
      have known := bracket_register prepared granted
      dsimp only
      split
      next refused => exact bracket_register known refused
      next granted =>
        have known := bracket_register known granted
        split
        next refused => exact bracket_register known refused
        next granted => exact bracket_attachFrontends (bracket_register known granted) i2c _ _ 0

theorem bracket_detachFrontends (bracket : Bracket h₀ h on) (a : Adapter) (count : Nat) :
    Bracket h₀ (detachFrontends count h a).1 on := by
  induction count generalizing h a with
  | zero => exact bracket
  | succ slot ih =>
    unfold detachFrontends
    split
    next => exact ih bracket a
    next =>
      split
      next =>
        have unregistered := bracket_unregister bracket true (.frontend a.id slot)
        exact ih (unregistered.perform _ fun _ => rfl) _
      next => exact ih bracket a

theorem bracket_releaseStreams (bracket : Bracket h₀ h on) (a : Adapter) (count slot : Nat) :
    Bracket h₀ (releaseStreams count slot h a).1 on := by
  induction count generalizing slot h a with
  | zero => exact bracket
  | succ count ih => exact ih (bracket_releaseStream bracket a slot) _ (slot + 1)

theorem bracket_exit (bracket : Bracket h₀ h on) (a : Adapter) : Bracket h₀ (a.exit h).1 on := by
  have shut : Bracket h₀ (setGate h a 0).1 on := bracket.note rfl
  have detached := bracket_detachFrontends shut (setGate h a 0).2 (setGate h a 0).2.slots.length
  unfold exit
  dsimp only
  refine bracket_releaseStreams ?_ _ _ _
  refine bracket_unregister ?_ _ _
  refine bracket_unregister ?_ _ _
  exact bracket_unregister detached _ _

end Lifecycle

end DvbReceiver.Adapter
