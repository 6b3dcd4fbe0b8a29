import DvbReceiver.Proofs.Adapter.Bracket
import DvbReceiver.Proofs.Adapter.Log
import DvbReceiver.Proofs.Gating

set_option autoImplicit false

namespace DvbReceiver.Adapter

def intake (a : Adapter) : Option Demux :=
  a.demux.map Demux.intake

/-- The gate and the demux of an adapter came from `a` to `a'` by these events. -/
structure Follows (i : Nat) (a : Adapter) (events : List Event) (a' : Adapter) : Prop where
  gate : a'.gate = gateAfter i a.gate events
  intake : ∀ demux, a.intake = some demux →
    a'.intake = some ((offered i events).foldl Demux.deliver demux) ∧
      offered i events = brought i a.gate events

variable {h h₁ h₂ h₃ : Host} {a a₁ a₂ a₃ : Adapter} {r : Nat → List UrbIdentity} {i slot : Nat}
  {events earlier later : List Event}

theorem Follows.trans (first : Follows i a₁ earlier a₂) (second : Follows i a₂ later a₃) :
    Follows i a₁ (later ++ earlier) a₃ where
  gate := by rw [second.gate, first.gate, gateAfter_append]
  intake demux present := by
    obtain ⟨there, same⟩ := first.intake demux present
    obtain ⟨there', same'⟩ := second.intake _ there
    rw [offered_append, brought_append, List.foldl_append, ← first.gate]
    exact ⟨there', congrArg₂ _ same same'⟩

theorem follows_elsewhere (elsewhere : ∀ e ∈ events, e.adapter? ≠ some i) (gate : a₁.gate = a.gate)
    (intake : a₁.intake = a.intake) : Follows i a events a₁ := by
  obtain ⟨after, nothing⟩ := gate_brought_elsewhere a.gate elsewhere
  have none := offered_elsewhere elsewhere
  constructor
  · rw [after, gate]
  · intro demux present
    rw [none, nothing, intake]
    exact ⟨present, rfl⟩

/-- What was done to an adapter, and the events, all of them its own, that came of it. -/
structure Conveys (h : Host) (a : Adapter) (h' : Host) (a' : Adapter) (events : List Event) : Prop
    extends Follows a.id a events a' where
  trace : h'.trace = events ++ h.trace
  id : a'.id = a.id
  own : ∀ e ∈ events, ∀ i, e.adapter? = some i → i = a.id

namespace Conveys

theorem trans (first : Conveys h₁ a₁ h₂ a₂ earlier) (second : Conveys h₂ a₂ h₃ a₃ later) :
    Conveys h₁ a₁ h₃ a₃ (later ++ earlier) :=
  { first.toFollows.trans (first.id ▸ second.toFollows) with
    trace := by rw [second.trace, first.trace, List.append_assoc]
    id := second.id.trans first.id
    own := by
      intro e there i about
      obtain late | soon := List.mem_append.1 there
      · exact (second.own e late i about).trans first.id
      · exact first.own e soon i about }

theorem aside (gate : a₁.gate = a.gate) (intake : a₁.intake = a.intake) (id : a₁.id = a.id)
    (trace : h₁.trace = events ++ h.trace) (none : ∀ e ∈ events, e.adapter? = none) :
    Conveys h a h₁ a₁ events :=
  { follows_elsewhere (elsewhere_of_none none) gate intake with
    trace
    id
    own := fun e there i about => by
      rw [none e there] at about
      cases about }

theorem refl (h : Host) (a : Adapter) : Conveys h a h a [] :=
  aside rfl rfl rfl rfl (by simp)

theorem perform (h : Host) (a : Adapter) (hook : Hook) :
    Conveys h a (h.perform hook).2 a [.called hook (h.driver.answer h.calls hook)] :=
  aside rfl rfl rfl rfl (by simp [Event.adapter?])

theorem setGate (h : Host) (a : Adapter) (feeds : Nat) :
    Conveys h a (setGate h a feeds).1 (setGate h a feeds).2 [.gated a.id feeds] where
  gate := by simp [gateAfter, Adapter.setGate]
  intake demux present := ⟨present, by simp [offered, brought, Event.chunk?]⟩
  trace := rfl
  id := rfl
  own e there i about := by
    rw [List.mem_singleton.1 there] at about
    exact (Option.some.inj about).symm

end Conveys

structure Streamed (h : Host) (a : Adapter) (h' : Host) (a' : Adapter) : Prop where
  conveys : ∃ events, Conveys h a h' a' events ∧ (a.gate = 0 → offered a.id events = [])
  gate : a'.gate = a.gate

namespace Streamed

theorem trans (first : Streamed h₁ a₁ h₂ a₂) (second : Streamed h₂ a₂ h₃ a₃) :
    Streamed h₁ a₁ h₃ a₃ := by
  obtain ⟨earlier, conveyed, shut⟩ := first.conveys
  obtain ⟨later, conveyed', shut'⟩ := second.conveys
  refine ⟨⟨later ++ earlier, conveyed.trans conveyed', fun closed => ?_⟩,
    second.gate.trans first.gate⟩
  rw [offered_append, shut closed, ← conveyed.id, shut' (first.gate.trans closed), List.append_nil]

theorem of_aside (gate : a₁.gate = a.gate) (intake : a₁.intake = a.intake) (id : a₁.id = a.id)
    (trace : ∃ events, h₁.trace = events ++ h.trace ∧ ∀ e ∈ events, e.adapter? = none) :
    Streamed h a h₁ a₁ := by
  obtain ⟨events, trace, none⟩ := trace
  exact ⟨⟨events, .aside gate intake id trace none, fun _ =>
    offered_elsewhere (elsewhere_of_none none)⟩, gate⟩

theorem refl (h : Host) (a : Adapter) : Streamed h a h a :=
  of_aside rfl rfl rfl ⟨[], rfl, by simp⟩

theorem perform (streamed : Streamed h a h₁ a₁) (hook : Hook) :
    Streamed h a (h₁.perform hook).2 a₁ :=
  streamed.trans (of_aside rfl rfl rfl ⟨[_], rfl, by simp [Event.adapter?]⟩)

end Streamed

section Streams

variable {α : Type} {fallback : α} {work : Flow → α × Flow}

theorem streamed_offer {s : Slot} {f : Flow} {refused : Nat} {stream : Stream}
    (booked : Flow.Booked { host := h, stream } f events refused)
    (own : stream.id / maxFrontends = a.id) :
    Streamed h a (offer f.host { a with slots := a.slots.set slot s } f.slices).1
      (offer f.host { a with slots := a.slots.set slot s } f.slices).2 := by
  obtain ⟨trace, -, work, passed, slices, -⟩ := booked
  dsimp only at trace work passed slices
  rw [List.nil_append, passed] at slices
  obtain ⟨gate, brought⟩ := gate_brought_work a.gate work own
  have silent : offered a.id events = [] := offered_work work
  have mine : ∀ e ∈ events, ∀ i, e.adapter? = some i → i = a.id := by
    intro e there i about
    have first := work e there
    cases e with
    | returned u =>
      have first : u.key.stream = stream.id := first
      cases about
      rw [UrbKey.adapter, first, own]
    | submitted | refused | delivered => cases about
    | called | attached | gated | offered => exact first.elim
  -- Unless the demux is there and the gate is open, nothing is offered.
  have unoffered (closed : ∀ demux, a.intake = some demux → a.gate = 0) :
      Streamed h a f.host { a with slots := a.slots.set slot s } := by
    refine ⟨⟨events, ⟨⟨gate.symm, ?_⟩, trace, rfl, mine⟩, fun _ => silent⟩, rfl⟩
    intro demux present
    rw [silent, brought, if_pos (closed demux present)]
    exact ⟨present, rfl⟩
  unfold offer
  split
  next missing =>
    have missing : a.demux = none := missing
    refine unoffered fun demux present => ?_
    rw [intake, missing] at present
    cases present
  next demux there =>
    have there : a.demux = some demux := there
    split
    next shut => exact unoffered fun _ _ => shut
    next opened =>
      have opened : ¬ a.gate = 0 := opened
      obtain ⟨kept, nothing⟩ := gate_brought_offers a.id a.gate f.slices
      refine ⟨⟨(f.slices.map (.offered a.id)).reverse ++ events, ⟨⟨?_, ?_⟩, ?_, rfl, ?_⟩,
        fun closed => absurd closed opened⟩, rfl⟩
      · rw [gateAfter_append, gate, kept]
      · intro demux' present
        rw [intake, there] at present
        cases present
        rw [offered_append, silent, offered_offers, brought_append, gate, nothing, brought,
          if_neg opened, List.append_nil, List.nil_append]
        exact ⟨congrArg some (Demux.intake_deliverAll f.slices demux), slices⟩
      · rw [Host.noteAll_eq, trace, List.append_assoc]
      · simp only [List.mem_append, List.mem_reverse, List.mem_map]
        rintro e (⟨data, -, rfl⟩ | earlier) i about
        · exact (Option.some.inj about).symm
        · exact mine e earlier i about

theorem streamed_onStream (sound : a.Sound r h.bus.queue)
    (booked : ∀ s, a.slots[slot]? = some s → ∃ events refused,
      Flow.Booked { host := h₁, stream := s.stream } (work { host := h₁, stream := s.stream }).2
        events refused) :
    Streamed h₁ a (onStream h₁ a slot fallback work).2.1
      (onStream h₁ a slot fallback work).2.2 := by
  unfold onStream
  cases there : a.slots[slot]? with
  | none => exact Streamed.refl h₁ a
  | some s =>
    obtain ⟨events, refused, booked⟩ := booked s there
    exact streamed_offer booked (sound.adapter_of_slot there)

theorem streamed_stopStream (sound : a.Sound r h.bus.queue) (slot : Nat) :
    Streamed h a (stopStream h a slot).1 (stopStream h a slot).2 :=
  streamed_onStream sound fun s there =>
    Flow.booked_stop (f := { host := h, stream := s.stream }) (sound.streams slot s there)

theorem streamed_startStream (sound : a.Sound r h.bus.queue) (slot : Nat) :
    Streamed h a (startStream h a slot).2.1 (startStream h a slot).2.2 :=
  streamed_onStream sound fun s there =>
    Flow.booked_start (f := { host := h, stream := s.stream }) (sound.streams slot s there)

theorem streamed_releaseStream (sound : a.Sound r h.bus.queue) (slot : Nat) :
    Streamed h a (releaseStream h a slot).1 (releaseStream h a slot).2 :=
  streamed_onStream sound fun s there =>
    Flow.booked_release (f := { host := h, stream := s.stream }) (sound.streams slot s there)

theorem streamed_complete {u : Urb} {queue : List Urb} (sound : a.Sound r h.bus.queue)
    (removed : Removed h.bus.queue u queue) (own : u.key.stream = streamId a.id slot)
    (fill : Fill) :
    Streamed h a (complete { h with bus := { h.bus with queue } } a slot (u.fill fill)).1
      (complete { h with bus := { h.bus with queue } } a slot (u.fill fill)).2 := by
  let host : Host := { h with bus := { h.bus with queue } }
  have taken : Streamed h a host a := .of_aside rfl rfl rfl ⟨[], rfl, by simp⟩
  refine taken.trans (streamed_onStream sound fun s there => ?_)
  have before : Flow.Sound { host := h, stream := s.stream } (r (streamId a.id slot)) :=
    sound.streams slot s there
  have mine : u.key.stream = s.stream.id := own.trans (sound.ids slot s there).symm
  have unqueued := before.custody.unqueue (removed.ofStream_perm mine)
  exact Flow.booked_complete (f := { host, stream := s.stream })
    (unqueued.rewrite (u.identity_fill fill))

theorem streamed_startStreaming (sound : a.Sound r h.bus.queue) (slot : Nat) (s : Slot) :
    Streamed h a (startStreaming h a slot s).2.1 (startStreaming h a slot s).2.2 := by
  have stopped := streamed_stopStream sound slot
  have worked := worked_stopStream sound slot
  unfold startStreaming
  cases first : stopStream h a slot with
  | mk h₁ a₁ =>
    rw [first] at stopped worked
    have asked := stopped.perform (.streaming a₁.id true)
    have worked₁ := worked.perform (.streaming a₁.id true) rfl
    dsimp only
    split
    next refused =>
      rw [refused] at asked
      exact asked
    next h₂ granted =>
      rw [granted] at asked worked₁
      have started := asked.trans (streamed_startStream worked₁.sound slot)
      have worked₂ := worked₁.trans (worked_startStream worked₁.sound slot)
      split
      next refused =>
        rw [refused] at started
        exact started.perform _
      next h₃ a₃ running =>
        rw [running] at started worked₂
        split
        next =>
          have set := started.perform (.pidFilterControl a₃.id s.filtering.isHardware)
          have worked₃ := worked₂.perform (.pidFilterControl a₃.id s.filtering.isHardware) rfl
          split
          next h₄ failed =>
            rw [failed] at set worked₃
            exact (set.trans (streamed_stopStream worked₃.sound slot)).perform _
          next succeeded =>
            rw [succeeded] at set
            exact set
        next => exact started

theorem Streamed.adjust (streamed : Streamed h a h₁ a₁) (feeds : Feeds) :
    Streamed h a h₁ { a₁ with feeds } :=
  streamed.trans (.of_aside rfl rfl rfl ⟨[], rfl, by simp⟩)

theorem streamed_stopStreaming (sound : a.Sound r h.bus.queue) (slot : Nat) :
    Streamed h a (stopStreaming h a slot).1 (stopStreaming h a slot).2 := by
  let b : Adapter := { a with feeds := { a.feeds with streaming := none } }
  have idle : Streamed h a h b := (Streamed.refl h a).adjust _
  have soundb : b.Sound r h.bus.queue := { sound with }
  exact (idle.trans (streamed_stopStream soundb slot)).perform _

end Streams

section Feeds

/-- The gate of an adapter was opened no further, and if it is shut now, nothing came through
meanwhile. -/
structure Lowers (h : Host) (a : Adapter) (h' : Host) (a' : Adapter) : Prop where
  conveys : ∃ events, Conveys h a h' a' events ∧ (a'.gate = 0 → offered a.id events = [])
  gate : a'.gate ≤ a.gate

theorem Streamed.lowers (streamed : Streamed h a h₁ a₁) : Lowers h a h₁ a₁ where
  conveys := by
    obtain ⟨events, conveyed, shut⟩ := streamed.conveys
    exact ⟨events, conveyed, fun closed => shut (streamed.gate.symm.trans closed)⟩
  gate := Nat.le_of_eq streamed.gate

theorem Lowers.trans (first : Lowers h₁ a₁ h₂ a₂) (second : Streamed h₂ a₂ h₃ a₃) :
    Lowers h₁ a₁ h₃ a₃ where
  conveys := by
    obtain ⟨earlier, conveyed, shut⟩ := first.conveys
    obtain ⟨later, conveyed', shut'⟩ := second.conveys
    refine ⟨later ++ earlier, conveyed.trans conveyed', fun closed => ?_⟩
    have closed₂ : a₂.gate = 0 := second.gate.symm.trans closed
    rw [offered_append, shut closed₂, ← conveyed.id, shut' closed₂, List.append_nil]
  gate := by
    rw [second.gate]
    exact first.gate

@[simp] theorem intake_watch (a : Adapter) (pid : Nat) (on : Bool) :
    (a.watch pid on).intake = a.intake := by
  unfold intake watch
  rw [Option.map_map]
  rfl

theorem conveys_addFeed (h : Host) (a : Adapter) (s : Slot) (feed : Feed) :
    ∃ events, Conveys h a (addFeed h a s feed).1 (addFeed h a s feed).2 events := by
  let b : Adapter := { a with feeds := { a.feeds with count := a.feeds.count + 1 } }
  have counted : Conveys h a h b [] := .aside rfl rfl rfl rfl (by simp)
  have opened := counted.trans (.setGate h b (a.feeds.count + 1))
  have watched {h₁ : Host} {events : List Event}
      (conveyed : Conveys h a h₁ (setGate h b (a.feeds.count + 1)).2 events) :
      ∃ events, Conveys h a h₁ ((setGate h b (a.feeds.count + 1)).2.watch feed.pid true) events :=
    ⟨_, conveyed.trans (.aside rfl (intake_watch _ _ _) rfl (List.nil_append _).symm (by simp))⟩
  unfold addFeed
  dsimp only
  split
  next => exact watched (opened.trans (.perform _ _ _))
  next => exact watched opened

theorem lowers_removeFeed (steered : a.Steered) (h : Host) (feed : Feed) :
    Lowers h a (removeFeed h a feed).1 (removeFeed h a feed).2 := by
  let b : Adapter :=
    { a.watch feed.pid false with feeds := { a.feeds with count := a.feeds.count - 1 } }
  have fewer : a.feeds.count - 1 ≤ a.gate := by
    rw [steered.gate]
    exact Nat.sub_le ..
  have lowered {h₁ : Host} (events : List Event) (trace : h₁.trace = events ++ h.trace)
      (none : ∀ e ∈ events, e.adapter? = none) :
      Lowers h a (setGate h₁ b (a.feeds.count - 1)).1 (setGate h₁ b (a.feeds.count - 1)).2 := by
    have aside : Conveys h a h₁ b events := .aside rfl (intake_watch ..) rfl trace none
    refine ⟨⟨_, aside.trans (.setGate h₁ b _), fun _ => ?_⟩, fewer⟩
    rw [offered_append, offered_elsewhere (elsewhere_of_none none)]
    rfl
  unfold removeFeed
  dsimp only
  split
  next => exact lowered [_] rfl (by simp [Event.adapter?])
  next => exact lowered [] rfl (by simp)

theorem conveys_startFeed (sound : a.Sound r h.bus.queue) (feed : Feed) :
    ∃ events, Conveys h a (startFeed h a feed).2.1 (startFeed h a feed).2.2 events := by
  have opened := Conveys.setGate h a (a.feeds.count + 1)
  have sound₁ : (setGate h a (a.feeds.count + 1)).2.Sound r
      (setGate h a (a.feeds.count + 1)).1.bus.queue := { sound with }
  have starting := starting_startFeed h a feed
  generalize startFeed h a feed = result at starting ⊢
  cases starting with
  | refused e => exact ⟨[], .refl h a⟩
  | joined slot s => exact conveys_addFeed h a s feed
  | failed slot s e h₁ a₁ _ _ _ failed =>
    have streamed := streamed_startStreaming sound₁ slot s
    rw [failed] at streamed
    obtain ⟨events, conveyed, -⟩ := streamed.conveys
    exact ⟨_, (opened.trans conveyed).trans (.setGate h₁ a₁ a₁.feeds.count)⟩
  | first slot s h₁ a₁ _ _ _ started =>
    have streamed := streamed_startStreaming sound₁ slot s
    rw [started] at streamed
    obtain ⟨events, conveyed, -⟩ :=
      (streamed.adjust { a₁.feeds with streaming := a₁.feeds.active }).conveys
    obtain ⟨later, counted⟩ := conveys_addFeed h₁
      { a₁ with feeds := { a₁.feeds with streaming := a₁.feeds.active } } s feed
    exact ⟨_, (opened.trans conveyed).trans counted⟩

theorem lowers_stopFeed (sound : a.Sound r h.bus.queue) (steered : a.Steered) (feed : Feed) :
    Lowers h a (stopFeed h a feed).2.1 (stopFeed h a feed).2.2 := by
  obtain unfed | fed := Nat.eq_zero_or_pos a.feeds.count
  next =>
    have unchanged : stopFeed h a feed = (.ok (), h, a) := if_pos unfed
    rw [unchanged]
    exact (Streamed.refl h a).lowers
  next =>
    have removed := lowers_removeFeed steered h feed
    rw [stopFeed_of_pos steered fed]
    cases (if 1 < a.feeds.count then none else a.feeds.streaming) with
    | none => exact removed
    | some slot =>
      have sound₁ : (removeFeed h a feed).2.Sound r (removeFeed h a feed).1.bus.queue := by
        rw [bus_removeFeed]
        exact { sound with }
      exact removed.trans (streamed_stopStreaming sound₁ slot)

theorem streamed_deselect (sound : a.Sound r h.bus.queue) (slot : Nat) :
    Streamed h a (deselect h a slot).1 (deselect h a slot).2 := by
  obtain ⟨active, same⟩ := asleep_eq a slot
  let b : Adapter := { a with feeds := { a.feeds with active } }
  have asleep : Streamed h a h b := (Streamed.refl h a).adjust _
  have soundb : b.Sound r h.bus.queue := { sound with }
  rw [deselect_eq, same]
  split
  next => exact asleep.trans (streamed_stopStreaming soundb slot)
  next => exact asleep

end Feeds

section Exit

theorem streamed_detachFrontends (sound : a.Sound r h.bus.queue) (count : Nat) :
    Streamed h a (detachFrontends count h a).1 (detachFrontends count h a).2 ∧
      (detachFrontends count h a).2.Sound r (detachFrontends count h a).1.bus.queue := by
  induction count generalizing h a with
  | zero => exact ⟨Streamed.refl h a, sound⟩
  | succ slot ih =>
    unfold detachFrontends
    split
    next => exact ih sound
    next frontend _ =>
      split
      next =>
        let gone (s : Slot) : Slot :=
          { s with frontend := some { frontend with registered := false } }
        have left : Streamed h a (unregister h (.frontend a.id slot)) (a.modified slot gone) :=
          .of_aside rfl rfl rfl ⟨[], rfl, by simp⟩
        have confined := confined_modified (f := gone) sound (fun _ => rfl) slot
        obtain ⟨later, sound₁⟩ := ih (a := a.modified slot gone)
          (h := ((unregister h (.frontend a.id slot)).perform (.demodDetach a.id slot)).2)
          confined.sound
        exact ⟨(left.perform _).trans later, sound₁⟩
      next => exact ih sound

theorem sound_releaseStream (sound : a.Sound r h.bus.queue) (slot : Nat) :
    ∃ r', (releaseStream h a slot).2.Sound r' (releaseStream h a slot).1.bus.queue := by
  unfold releaseStream
  cases there : a.slots[slot]? with
  | none =>
    rw [onStream_missing h there]
    exact ⟨r, sound⟩
  | some s =>
    have before : Flow.Sound { host := h, stream := s.stream } (r (streamId a.id slot)) :=
      sound.streams slot s there
    exact ⟨_, (worked_onStream sound there () (fun f => ((), f.release))
      (Flow.step_release before)).sound⟩

theorem streamed_releaseStreams (sound : a.Sound r h.bus.queue) (count slot : Nat) :
    Streamed h a (releaseStreams count slot h a).1 (releaseStreams count slot h a).2 := by
  induction count generalizing slot h a r with
  | zero => exact Streamed.refl h a
  | succ count ih =>
    obtain ⟨r', after⟩ := sound_releaseStream sound slot
    exact (streamed_releaseStream sound slot).trans (ih after (slot + 1))

theorem unregister_idle (h : Host) (known : Bool) (place : Place) :
    (if known then unregister h place else h).trace = h.trace ∧
      (if known then unregister h place else h).bus = h.bus := by
  cases known <;> exact ⟨rfl, rfl⟩

/-- Nothing comes through any more once an adapter has begun its exit. -/
theorem lowers_exit (sound : a.Sound r h.bus.queue) :
    Lowers h a (a.exit h).1 (a.exit h).2 ∧ (a.exit h).2.gate = 0 := by
  have shut : Lowers h a (setGate h a 0).1 (setGate h a 0).2 :=
    ⟨⟨_, .setGate h a 0, fun _ => rfl⟩, Nat.zero_le _⟩
  have sound₁ : (setGate h a 0).2.Sound r (setGate h a 0).1.bus.queue := { sound with }
  obtain ⟨detached, sound₂⟩ := streamed_detachFrontends sound₁ (setGate h a 0).2.slots.length
  unfold exit
  dsimp only
  cases result : detachFrontends (setGate h a 0).2.slots.length (setGate h a 0).1
      (setGate h a 0).2 with
  | mk h₁ a₁ =>
    rw [result] at detached sound₂
    obtain ⟨trace, bus⟩ := unregister_idle h₁ a₁.registered.net (.net a₁.id)
    dsimp only
    generalize (if a₁.registered.net then unregister h₁ (.net a₁.id) else h₁) = h₂ at trace bus ⊢
    obtain ⟨trace', bus'⟩ := unregister_idle h₂ a₁.registered.demux (.demux a₁.id)
    generalize (if a₁.registered.demux then unregister h₂ (.demux a₁.id) else h₂) = h₃
      at trace' bus' ⊢
    obtain ⟨trace'', bus''⟩ := unregister_idle h₃ a₁.registered.adapter (.adapter a₁.id)
    generalize (if a₁.registered.adapter then unregister h₃ (.adapter a₁.id) else h₃) = h₄
      at trace'' bus'' ⊢
    let b : Adapter := { a₁ with registered := {} }
    have left : Streamed h₁ a₁ h₄ b :=
      .of_aside rfl rfl rfl ⟨[], trace''.trans (trace'.trans trace), by simp⟩
    have sound₃ : b.Sound r h₄.bus.queue := by
      rw [bus'', bus', bus]
      exact { sound₂ with }
    have released := streamed_releaseStreams sound₃ b.slots.length 0
    have gone := (detached.trans (left.trans released)).adjust {}
    exact ⟨shut.trans gone, gone.gate⟩

end Exit

end DvbReceiver.Adapter
