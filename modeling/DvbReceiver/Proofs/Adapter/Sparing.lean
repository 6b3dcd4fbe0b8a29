import DvbReceiver.Proofs.Adapter.Bracket
import DvbReceiver.Proofs.Stream.Sparing

set_option autoImplicit false

namespace DvbReceiver.Adapter

open Host (Spares)

variable {h₀ h : Host} {a : Adapter} {r : Nat → List UrbIdentity} {i slot : Nat}

section Streams

theorem spares_offer (spares : Spares i h₀ h) (number : a.id = i) (slices : List Bytes) :
    Spares i h₀ (offer h a slices).1 := by
  unfold offer
  split
  next => exact spares
  next =>
    split
    next => exact spares
    next =>
      exact spares.noteAll (by simp [Event.party?, number]) (by simp [Event.demodMark?])

theorem spares_onStream {α : Type} {fallback : α} {work : Flow → α × Flow}
    (spares : Spares i h₀ h) (sound : a.Sound r h.bus.queue) (number : a.id = i)
    (flow : ∀ s, a.slots[slot]? = some s → s.stream.id / maxFrontends = i →
      Spares i h₀ (work { host := h, stream := s.stream }).2.host) :
    Spares i h₀ (onStream h a slot fallback work).2.1 := by
  unfold onStream
  split
  next => exact spares
  next s there =>
    have own : s.stream.id / maxFrontends = i := (sound.adapter_of_slot there).trans number
    refine spares_offer (flow s there own) ?_ _
    exact number

theorem spares_stopStream (spares : Spares i h₀ h) (sound : a.Sound r h.bus.queue)
    (number : a.id = i) (slot : Nat) : Spares i h₀ (stopStream h a slot).1 :=
  spares_onStream spares sound number fun s _ own =>
    Flow.spares_stop (f := { host := h, stream := s.stream }) spares own

theorem spares_startStream (spares : Spares i h₀ h) (sound : a.Sound r h.bus.queue)
    (number : a.id = i) (slot : Nat) : Spares i h₀ (startStream h a slot).2.1 :=
  spares_onStream spares sound number fun s there own =>
    Flow.spares_start (f := { host := h, stream := s.stream }) spares
      (sound.streams slot s there) own

theorem spares_complete {u : Urb} {queue : List Urb} (spares : Spares i h₀ h)
    (sound : a.Sound r h.bus.queue) (number : a.id = i) (removed : Removed h.bus.queue u queue)
    (own : u.key.adapter = i) (slot : Nat) (fill : Fill) :
    Spares i h₀ (complete { h with bus := { h.bus with queue } } a slot (u.fill fill)).1 := by
  have unqueued : Spares i h₀ { h with bus := { h.bus with queue } } :=
    spares.removed (Host.steady_bus rfl rfl rfl rfl) rfl removed own
  unfold complete onStream
  split
  next => exact unqueued
  next s there =>
    have own' : (u.fill fill).key.adapter = i := by rwa [u.key_fill]
    refine spares_offer ?_ ?_ _
    · exact Flow.spares_complete (f := { host := _, stream := s.stream }) unqueued
        ((sound.adapter_of_slot there).trans number) own'
    · exact number

end Streams

section Feeds

theorem spares_streaming (spares : Spares i h₀ h) (number : a.id = i) (on : Bool) :
    Spares i h₀ (h.perform (.streaming a.id on)).2 :=
  spares.perform (by simp [Hook.adapter?, number]) rfl

theorem spares_startStreaming (spares : Spares i h₀ h) (sound : a.Sound r h.bus.queue)
    (number : a.id = i) (slot : Nat) (s : Slot) :
    Spares i h₀ (startStreaming h a slot s).2.1 := by
  have stopped := worked_stopStream sound slot
  have spares₁ := spares_stopStream spares sound number slot
  unfold startStreaming
  cases first : stopStream h a slot with
  | mk h₁ a₁ =>
    rw [first] at stopped spares₁
    have number₁ : a₁.id = i := stopped.id.trans number
    have asked := (Worked.refl stopped.sound).perform (.streaming a₁.id true) rfl
    have spares₂ := spares_streaming spares₁ number₁ true
    dsimp only
    split
    next refused =>
      rw [refused] at spares₂
      exact spares₂
    next h₂ granted =>
      rw [granted] at asked spares₂
      have started := worked_startStream asked.sound slot
      have spares₃ := spares_startStream spares₂ asked.sound number₁ slot
      split
      next h₃ a₃ refused =>
        rw [refused] at started spares₃
        exact spares_streaming spares₃ (started.id.trans number₁) false
      next h₃ a₃ running =>
        rw [running] at started spares₃
        have number₃ : a₃.id = i := started.id.trans number₁
        split
        next =>
          have set := started.perform (.pidFilterControl a₃.id s.filtering.isHardware) rfl
          have spares₄ : Spares i h₀
              (h₃.perform (.pidFilterControl a₃.id s.filtering.isHardware)).2 :=
            spares₃.perform (by simp [Hook.adapter?, number₃]) rfl
          split
          next h₄ failed =>
            rw [failed] at set spares₄
            exact spares_streaming (spares_stopStream spares₄ set.sound number₃ slot)
              ((worked_stopStream set.sound slot).id.trans number₃) false
          next succeeded =>
            rw [succeeded] at spares₄
            exact spares₄
        next => exact spares₃

theorem spares_stopStreaming (spares : Spares i h₀ h) (sound : a.Sound r h.bus.queue)
    (number : a.id = i) (slot : Nat) : Spares i h₀ (stopStreaming h a slot).1 := by
  let b : Adapter := { a with feeds := { a.feeds with streaming := none } }
  have soundb : b.Sound r h.bus.queue := { sound with }
  exact spares_streaming (spares_stopStream spares soundb number slot)
    ((worked_stopStream soundb slot).id.trans number) false

theorem spares_setGate (spares : Spares i h₀ h) (number : a.id = i) (feeds : Nat) :
    Spares i h₀ (setGate h a feeds).1 :=
  spares.note (by simp [Event.party?, number]) rfl

theorem spares_pidFilter (spares : Spares i h₀ h) (number : a.id = i) (needed : Bool)
    (feed : Feed) (on : Bool) :
    Spares i h₀ (if needed then (h.perform (.pidFilter a.id feed.index feed.pid on)).2 else h) := by
  split
  next => exact spares.perform (by simp [Hook.adapter?, number]) rfl
  next => exact spares

theorem spares_addFeed (spares : Spares i h₀ h) (number : a.id = i) (s : Slot) (feed : Feed) :
    Spares i h₀ (addFeed h a s feed).1 :=
  spares_pidFilter (a := { a with feeds := { a.feeds with count := a.feeds.count + 1 } })
    (spares_setGate spares number (a.feeds.count + 1)) number s.filtering.isHardware feed true

theorem spares_removeFeed (spares : Spares i h₀ h) (number : a.id = i) (feed : Feed) :
    Spares i h₀ (removeFeed h a feed).1 :=
  spares_setGate (a := { a with feeds := { a.feeds with count := a.feeds.count - 1 } })
    (spares_pidFilter spares number _ feed false) number (a.feeds.count - 1)

theorem spares_startFeed (sound : a.Sound r h.bus.queue) (ready : a.Ready r) (feed : Feed) :
    Spares a.id h (startFeed h a feed).2.1 := by
  have started {slot : Nat} {s : Slot} (there : a.slots[slot]? = some s) :
      let opened := setGate h a (a.feeds.count + 1)
      let result := startStreaming opened.1 opened.2 slot s
      Spares a.id h result.2.1 ∧ result.2.2.id = a.id := by
    intro opened result
    have shown : Spares a.id h opened.1 := spares_setGate (Spares.refl a.id h) rfl _
    have sound₁ : opened.2.Sound r opened.1.bus.queue := { sound with }
    exact ⟨spares_startStreaming shown sound₁ rfl slot s, (worked_first sound ready there).id⟩
  have starting := starting_startFeed h a feed
  generalize startFeed h a feed = result at starting ⊢
  cases starting with
  | refused => exact Spares.refl a.id h
  | joined slot s => exact spares_addFeed (Spares.refl a.id h) rfl s feed
  | failed slot s e h₁ a₁ _ _ there failed =>
    obtain ⟨spares, number⟩ := started there
    rw [failed] at spares number
    exact spares_setGate spares number _
  | first slot s h₁ a₁ _ _ there succeeded =>
    obtain ⟨spares, number⟩ := started there
    rw [succeeded] at spares number
    exact spares_addFeed spares number s feed

theorem spares_stopFeed (sound : a.Sound r h.bus.queue) (steered : a.Steered) (feed : Feed) :
    Spares a.id h (stopFeed h a feed).2.1 := by
  obtain unfed | fed := Nat.eq_zero_or_pos a.feeds.count
  next =>
    have unchanged : stopFeed h a feed = (.ok (), h, a) := if_pos unfed
    rw [unchanged]
    exact Spares.refl a.id h
  next =>
    have removed : Spares a.id h (removeFeed h a feed).1 :=
      spares_removeFeed (Spares.refl a.id h) rfl feed
    rw [stopFeed_of_pos steered fed]
    cases (if 1 < a.feeds.count then none else a.feeds.streaming) with
    | none => exact removed
    | some slot =>
      have sound₁ : (removeFeed h a feed).2.Sound r (removeFeed h a feed).1.bus.queue := by
        rw [bus_removeFeed]
        exact { sound with }
      exact spares_stopStreaming removed sound₁ rfl slot

theorem spares_deselect (sound : a.Sound r h.bus.queue) (slot : Nat) :
    Spares a.id h (deselect h a slot).1 := by
  obtain ⟨active, same⟩ := asleep_eq a slot
  rw [deselect_eq, same]
  split
  next =>
    exact spares_stopStreaming (a := { a with feeds := { a.feeds with active } })
      (Spares.refl a.id h) { sound with } rfl slot
  next => exact Spares.refl a.id h

end Feeds

end DvbReceiver.Adapter
