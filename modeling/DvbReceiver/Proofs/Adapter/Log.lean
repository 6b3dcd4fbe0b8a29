import DvbReceiver.Proofs.Adapter.Steps
import DvbReceiver.Proofs.Stream.Log

set_option autoImplicit false

namespace DvbReceiver

theorem Demux.state_deliverAll (slices : List Bytes) (d : Demux) :
    (slices.foldl deliver d).state = d.state := by
  induction slices generalizing d with
  | nil => rfl
  | cons chunk rest ih =>
    refine (ih (d.deliver chunk)).trans ?_
    unfold deliver
    split <;> rfl

namespace Adapter

def filters (a : Adapter) : Option (List Nat) :=
  a.demux.map (·.state.filters)

variable {α : Type} {view : Hook → HookOutcome → Option α}

/-- What is done to start or stop a stream stays out of view. -/
structure Blind (view : Hook → HookOutcome → Option α) : Prop where
  streaming : ∀ adapter on outcome, view (.streaming adapter on) outcome = none
  control : ∀ adapter enabled outcome, view (.pidFilterControl adapter enabled) outcome = none

structure Hidden (view : Hook → HookOutcome → Option α) (h : Host) (a : Adapter) (h' : Host)
    (a' : Adapter) : Prop where
  log : h'.log view = h.log view
  filters : a'.filters = a.filters

variable {h h₁ h₂ h₃ : Host} {a a₁ a₂ a₃ : Adapter} {r : Nat → List UrbIdentity} {slot : Nat}

theorem Hidden.refl (h : Host) (a : Adapter) : Hidden view h a h a :=
  ⟨rfl, rfl⟩

theorem Hidden.trans (first : Hidden view h₁ a₁ h₂ a₂) (second : Hidden view h₂ a₂ h₃ a₃) :
    Hidden view h₁ a₁ h₃ a₃ :=
  ⟨second.log.trans first.log, second.filters.trans first.filters⟩

theorem Hidden.perform (hidden : Hidden view h₁ a₁ h₂ a₂) {hook : Hook}
    (unseen : ∀ outcome, view hook outcome = none) :
    Hidden view h₁ a₁ (h₂.perform hook).2 a₂ :=
  ⟨(Host.log_perform_unseen view h₂ unseen).trans hidden.log, hidden.filters⟩

theorem hidden_setGate (view : Hook → HookOutcome → Option α) (h : Host) (a : Adapter)
    (feeds : Nat) : Hidden view h a (setGate h a feeds).1 (setGate h a feeds).2 :=
  ⟨Host.log_note view h rfl, rfl⟩

theorem hidden_offer (view : Hook → HookOutcome → Option α) (h : Host) (a : Adapter)
    (slices : List Bytes) : Hidden view h a (offer h a slices).1 (offer h a slices).2 := by
  unfold offer
  split
  next => exact Hidden.refl h a
  next demux present =>
    split
    next => exact Hidden.refl h a
    next =>
      refine ⟨Host.log_noteAll view h (by simp [Event.seen]), ?_⟩
      simp [filters, present, Demux.state_deliverAll]

theorem hidden_onStream {β : Type} {work : Flow → β × Flow}
    (kept : ∀ f, (work f).2.host.log view = f.host.log view) (h : Host) (a : Adapter) (slot : Nat)
    (fallback : β) :
    Hidden view h a (onStream h a slot fallback work).2.1
      (onStream h a slot fallback work).2.2 := by
  unfold onStream
  split
  next => exact Hidden.refl h a
  next s _ =>
    let f := (work { host := h, stream := s.stream }).2
    let a' : Adapter := { a with slots := a.slots.set slot { s with stream := f.stream } }
    have worked : Hidden view h a f.host a' := ⟨kept { host := h, stream := s.stream }, rfl⟩
    exact worked.trans (hidden_offer view f.host a' f.slices)

theorem hidden_stopStream (view : Hook → HookOutcome → Option α) (h : Host) (a : Adapter)
    (slot : Nat) : Hidden view h a (stopStream h a slot).1 (stopStream h a slot).2 :=
  hidden_onStream (fun f => Flow.log_stop view f) h a slot ()

theorem hidden_startStream (view : Hook → HookOutcome → Option α) (h : Host) (a : Adapter)
    (slot : Nat) : Hidden view h a (startStream h a slot).2.1 (startStream h a slot).2.2 :=
  hidden_onStream (fun f => Flow.log_start view f) h a slot (.ok ())

theorem hidden_complete (view : Hook → HookOutcome → Option α) (h : Host) (a : Adapter)
    (slot : Nat) (u : Urb) : Hidden view h a (complete h a slot u).1 (complete h a slot u).2 :=
  hidden_onStream (fun f => Flow.log_complete view f u) h a slot ()

theorem hidden_startStreaming (blind : Blind view) (h : Host) (a : Adapter) (slot : Nat)
    (s : Slot) :
    Hidden view h a (startStreaming h a slot s).2.1 (startStreaming h a slot s).2.2 := by
  have stopped := hidden_stopStream view h a slot
  unfold startStreaming
  cases first : stopStream h a slot with
  | mk h₁ a₁ =>
    rw [first] at stopped
    have asked := stopped.perform (blind.streaming a₁.id true)
    dsimp only
    split
    next refused =>
      rw [refused] at asked
      exact asked
    next h₂ granted =>
      rw [granted] at asked
      have started := asked.trans (hidden_startStream view h₂ a₁ slot)
      split
      next refused =>
        rw [refused] at started
        exact started.perform (blind.streaming _ false)
      next h₃ a₃ running =>
        rw [running] at started
        split
        next =>
          have set := started.perform (blind.control a₃.id s.filtering.isHardware)
          split
          next h₄ failed =>
            rw [failed] at set
            exact (set.trans (hidden_stopStream view h₄ a₃ slot)).perform (blind.streaming _ false)
          next succeeded =>
            rw [succeeded] at set
            exact set
        next => exact started

theorem hidden_stopStreaming (blind : Blind view) (h : Host) (a : Adapter) (slot : Nat) :
    Hidden view h a (stopStreaming h a slot).1 (stopStreaming h a slot).2 := by
  let b : Adapter := { a with feeds := { a.feeds with streaming := none } }
  have stopped := hidden_stopStream view h b slot
  have down := stopped.perform (blind.streaming (stopStream h b slot).2.id false)
  exact ⟨down.log, down.filters⟩

theorem hidden_deselect (blind : Blind view) (h : Host) (a : Adapter) (slot : Nat) :
    Hidden view h a (deselect h a slot).1 (deselect h a slot).2 := by
  obtain ⟨active, same⟩ := asleep_eq a slot
  rw [deselect_eq, same]
  split
  next =>
    have down := hidden_stopStreaming blind h { a with feeds := { a.feeds with active } } slot
    exact ⟨down.log, down.filters⟩
  next => exact ⟨rfl, rfl⟩

section Feeds

variable {feed : Feed}

theorem log_addFeed (setting : Option α) (s : Slot)
    (seen : ∀ outcome, view (.pidFilter a.id feed.index feed.pid true) outcome = setting) :
    (addFeed h a s feed).1.log view =
      (if s.filtering.isHardware then setting.toList else []) ++ h.log view := by
  have gated := (hidden_setGate view h { a with
    feeds := { a.feeds with count := a.feeds.count + 1 } } (a.feeds.count + 1)).log
  unfold addFeed
  dsimp only
  split
  next =>
    rw [Host.log_perform, gated]
    exact congrArg (Option.toList · ++ _) (seen _)
  next => exact gated

theorem filters_addFeed (h : Host) (a : Adapter) (s : Slot) (feed : Feed) :
    (addFeed h a s feed).2.filters = a.filters.map (Increasing.insert feed.pid) := by
  show (a.demux.map (·.watch feed.pid true)).map _ = (a.demux.map _).map _
  rw [Option.map_map, Option.map_map]
  rfl

theorem log_removeFeed (setting : Option α)
    (seen : ∀ outcome, view (.pidFilter a.id feed.index feed.pid false) outcome = setting) :
    (removeFeed h a feed).1.log view =
      (if a.feeds.streaming.any fun slot => (a.slots[slot]?).any (·.filtering.isHardware) then
        setting.toList else []) ++ h.log view := by
  unfold removeFeed
  dsimp only
  rw [(hidden_setGate view _ _ _).log]
  split
  next =>
    rw [Host.log_perform]
    exact congrArg (Option.toList · ++ _) (seen _)
  next => rfl

theorem filters_removeFeed (h : Host) (a : Adapter) (feed : Feed) :
    (removeFeed h a feed).2.filters = a.filters.map (·.filter (· != feed.pid)) := by
  show (a.demux.map (·.watch feed.pid false)).map _ = (a.demux.map _).map _
  rw [Option.map_map, Option.map_map]
  rfl

theorem hidden_startFeed (blind : Blind view) {e : Failure}
    (failed : (startFeed h a feed).1 = .error e) :
    Hidden view h a (startFeed h a feed).2.1 (startFeed h a feed).2.2 := by
  have starting := starting_startFeed h a feed
  generalize startFeed h a feed = result at starting failed ⊢
  cases starting with
  | refused e => exact Hidden.refl h a
  | joined slot s => cases failed
  | failed slot s e h₁ a₁ _ _ _ refused =>
    have opened := hidden_setGate view h a (a.feeds.count + 1)
    have started := hidden_startStreaming blind (setGate h a (a.feeds.count + 1)).1
      (setGate h a (a.feeds.count + 1)).2 slot s
    rw [refused] at started
    exact (opened.trans started).trans (hidden_setGate view h₁ a₁ a₁.feeds.count)
  | first => cases failed

theorem shown_startFeed (blind : Blind view) (sound : a.Sound r h.bus.queue) (ready : a.Ready r)
    (setting : Option α)
    (seen : ∀ outcome, view (.pidFilter a.id feed.index feed.pid true) outcome = setting)
    (ok : (startFeed h a feed).1 = .ok ()) :
    ∃ s ∈ a.slots,
      (startFeed h a feed).2.1.log view =
        (if s.filtering.isHardware then setting.toList else []) ++ h.log view ∧
      (startFeed h a feed).2.2.filters = a.filters.map (Increasing.insert feed.pid) := by
  have starting := starting_startFeed h a feed
  generalize startFeed h a feed = result at starting ok ⊢
  cases starting with
  | refused e => cases ok
  | joined slot s _ there =>
    exact ⟨s, List.mem_of_getElem? there, log_addFeed setting s seen, filters_addFeed h a s feed⟩
  | failed => cases ok
  | first slot s h₁ a₁ _ _ there granted =>
    have opened := hidden_setGate view h a (a.feeds.count + 1)
    have started := hidden_startStreaming blind (setGate h a (a.feeds.count + 1)).1
      (setGate h a (a.feeds.count + 1)).2 slot s
    have id := (worked_first sound ready there).id
    rw [granted] at started id
    have hidden := opened.trans started
    have id : a₁.id = a.id := id
    refine ⟨s, List.mem_of_getElem? there, ?_, ?_⟩
    · rw [log_addFeed setting s (by rw [id]; exact seen), hidden.log]
    · rw [filters_addFeed]
      exact congrArg _ hidden.filters

theorem shown_stopFeed (blind : Blind view) (steered : a.Steered) (fed : 0 < a.feeds.count)
    (h : Host) (feed : Feed) (setting : Option α)
    (seen : ∀ outcome, view (.pidFilter a.id feed.index feed.pid false) outcome = setting) :
    (stopFeed h a feed).2.1.log view =
        (if a.feeds.streaming.any fun slot => (a.slots[slot]?).any (·.filtering.isHardware) then
          setting.toList else []) ++ h.log view ∧
      (stopFeed h a feed).2.2.filters = a.filters.map (·.filter (· != feed.pid)) := by
  have log := log_removeFeed (h := h) setting seen
  have filters := filters_removeFeed h a feed
  rw [stopFeed_of_pos steered fed]
  cases (if 1 < a.feeds.count then none else a.feeds.streaming) with
  | none => exact ⟨log, filters⟩
  | some slot =>
    have down := hidden_stopStreaming blind (removeFeed h a feed).1 (removeFeed h a feed).2 slot
    exact ⟨down.log.trans log, down.filters.trans filters⟩

variable (unseen : ∀ adapter index pid on outcome,
  view (.pidFilter adapter index pid on) outcome = none)

include unseen

theorem log_startFeed (blind : Blind view) (h : Host) (a : Adapter) (feed : Feed) :
    (startFeed h a feed).2.1.log view = h.log view := by
  have starting := starting_startFeed h a feed
  have added (h : Host) (a : Adapter) (s : Slot) :
      (addFeed h a s feed).1.log view = h.log view := by
    have log : (addFeed h a s feed).1.log view = _ := log_addFeed none s (unseen _ _ _ _)
    simpa using log
  have opened := (hidden_setGate view h a (a.feeds.count + 1)).log
  have started (slot : Nat) (s : Slot) := (hidden_startStreaming blind
    (setGate h a (a.feeds.count + 1)).1 (setGate h a (a.feeds.count + 1)).2 slot s).log
  generalize startFeed h a feed = result at starting ⊢
  cases starting with
  | refused e => rfl
  | joined slot s => exact added h a s
  | failed slot s e h₁ a₁ _ _ _ refused =>
    specialize started slot s
    rw [refused] at started
    exact ((hidden_setGate view h₁ a₁ _).log.trans started).trans opened
  | first slot s h₁ a₁ _ _ _ granted =>
    specialize started slot s
    rw [granted] at started
    exact (added h₁ _ s).trans (started.trans opened)

theorem log_stopFeed (blind : Blind view) (h : Host) (a : Adapter) (feed : Feed) :
    (stopFeed h a feed).2.1.log view = h.log view := by
  unfold stopFeed
  split
  next => rfl
  next =>
    dsimp only
    generalize ((a.feeds.streaming.filter _).any _) = filters
    have cleared : (if filters then (h.perform (.pidFilter a.id feed.index feed.pid false)).2
        else h).log view = h.log view := by
      split
      next => exact Host.log_perform_unseen view h (unseen _ _ _ _)
      next => rfl
    generalize (if filters then (h.perform (.pidFilter a.id feed.index feed.pid false)).2
        else h) = h₁ at cleared ⊢
    have gated (b : Adapter) (feeds : Nat) : (setGate h₁ b feeds).1.log view = h.log view :=
      (hidden_setGate view h₁ b feeds).log.trans cleared
    split
    next => exact gated ..
    next =>
      split
      next => exact gated ..
      next slot _ =>
        generalize reached : stopStream _ _ slot = after
        have stopped : after.1.log view = h.log view := by
          rw [← reached]
          exact (hidden_stopStream view _ _ slot).log.trans (gated ..)
        have asked := (Host.log_perform_unseen view after.1
          (blind.streaming after.2.id false)).trans stopped
        split
        next failed =>
          rw [failed] at asked
          exact asked
        next done =>
          rw [done] at asked
          exact asked

end Feeds

end Adapter

end DvbReceiver
