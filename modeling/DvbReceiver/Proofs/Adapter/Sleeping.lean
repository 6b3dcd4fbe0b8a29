import DvbReceiver.Proofs.Adapter.Log
import DvbReceiver.Proofs.Stream.Recall
import DvbReceiver.Proofs.Stream.Withdrawal

set_option autoImplicit false

namespace DvbReceiver

def Feeds.without (feeds : Feeds) (slot : Nat) : Feeds :=
  { feeds with
    active := feeds.active.filter (· != slot)
    streaming := feeds.streaming.filter (· != slot) }

namespace Adapter

variable {h h' : Host} {a a' : Adapter} {r : Nat → List UrbIdentity} {slot : Nat} {s : Slot}

/-- An adapter once the frontend of a slot has fallen asleep: the slot is not active and does not
stream, all its requests are parked, and the demux filters as before. -/
structure Rested (a : Adapter) (slot : Nat) (s : Slot) (a' : Adapter) : Prop where
  stream : ∃ stream demux,
    a' = { a with
      slots := a.slots.set slot { s with stream }, feeds := a.feeds.without slot, demux } ∧
    stream.submitted = 0 ∧ stream.prepared = s.stream.prepared ∧ stream.AtHome
  filters : a'.filters = a.filters

/-- The stream of a slot has taken back all the requests that the bus had of it, and what they
brought went to the demux at most. -/
structure Stilled (h : Host) (a : Adapter) (slot : Nat) (h' : Host) : Prop where
  trace : ∃ events, h'.trace = events ++ h.trace ∧
    (∀ e ∈ events, e.OfWithdrawal (streamId a.id slot) ∨ ∃ data, e = .offered a.id data) ∧
    ∀ u ∈ ofStream (streamId a.id slot) h.bus.queue, ∃ v, .returned v ∈ events ∧ v.key = u.key
  queue : h'.bus.queue = ofOthers (streamId a.id slot) h.bus.queue

theorem asleep_filter (a : Adapter) (slot : Nat) :
    a.asleep slot =
      { a with feeds := { a.feeds with active := a.feeds.active.filter (· != slot) } } := by
  have active := active_asleep a slot
  obtain ⟨active', same⟩ := asleep_eq a slot
  rw [same] at active ⊢
  rw [show active' = _ from active]

theorem streaming_stopFeed (steered : a.Steered) (idle : a.feeds.streaming = none) (h : Host)
    (feed : Feed) : (stopFeed h a feed).2.2.feeds.streaming = none := by
  obtain unfed | fed := Nat.eq_zero_or_pos a.feeds.count
  next =>
    have unchanged : stopFeed h a feed = (.ok (), h, a) := if_pos unfed
    rw [unchanged]
    exact idle
  next =>
    rw [stopFeed_of_pos steered fed, idle, ite_self]
    exact idle

theorem rested_asleep (idle : a.feeds.streaming ≠ some slot) (there : a.slots[slot]? = some s)
    (rest : s.stream.submitted = 0) (home : s.stream.AtHome) : a.Rested slot s (a.asleep slot) := by
  rw [asleep_filter]
  refine ⟨⟨s.stream, a.demux, ?_, rest, rfl, home⟩, rfl⟩
  have streaming : a.feeds.streaming.filter (· != slot) = a.feeds.streaming := by
    cases busy : a.feeds.streaming with
    | none => rfl
    | some other =>
      rw [busy] at idle
      simpa [Option.filter] using idle
  obtain ⟨within, rfl⟩ := List.getElem?_eq_some_iff.1 there
  rw [Feeds.without, streaming, List.set_getElem_self]

theorem stilled_idle (gone : ofStream (streamId a.id slot) h.bus.queue = []) :
    Stilled h a slot h where
  trace := ⟨[], rfl, by simp, by simp [gone]⟩
  queue := (ofOthers_of_ofStream gone).symm

theorem trace_onStream {α : Type} (h : Host) (there : a.slots[slot]? = some s) (fallback : α)
    (work : Flow → α × Flow) :
    ∃ offers : List Bytes, (onStream h a slot fallback work).2.1.trace =
      (offers.map (.offered a.id)).reverse ++
        (work { host := h, stream := s.stream }).2.host.trace := by
  simp only [onStream, there]
  unfold offer
  split
  next => exact ⟨[], rfl⟩
  next =>
    split
    next => exact ⟨[], rfl⟩
    next =>
      rw [Host.noteAll_eq]
      exact ⟨_, rfl⟩

theorem stilled_stopStream (sound : a.Sound r h.bus.queue) (there : a.slots[slot]? = some s) :
    Stilled h a slot (stopStream h a slot).1 ∧
      ∃ stream demux, (stopStream h a slot).2 =
          { a with slots := a.slots.set slot { s with stream }, demux } ∧
        stream.submitted = 0 ∧ stream.prepared = s.stream.prepared ∧ stream.AtHome := by
  let f : Flow := { host := h, stream := s.stream }
  have before : f.Sound (r (streamId a.id slot)) := sound.streams slot s there
  have id : f.stream.id = streamId a.id slot := sound.ids slot s there
  have recalled := before.recalled
  have gone := Flow.queue_stop before.custody before.size before.idle
  obtain ⟨events, withdrawn⟩ := Flow.withdrawn_stop f
  obtain ⟨offers, trace⟩ := trace_onStream h there () fun f => ((), f.stop)
  obtain ⟨h', demux, same, -, bus⟩ := onStream_cases h there () fun f => ((), f.stop)
  have queue : h'.bus.queue = f.stop.host.bus.queue := congrArg Bus.queue bus
  rw [same] at trace
  unfold stopStream
  rw [same]
  refine ⟨⟨⟨(offers.map (.offered a.id)).reverse ++ events, ?_, ?_, ?_⟩, ?_⟩,
    f.stop.stream, demux, rfl, recalled.submitted, recalled.prepared, recalled.home⟩
  · exact trace.trans (by rw [withdrawn.trace, List.append_assoc])
  · intro e there
    obtain offered | work := List.mem_append.1 there
    · obtain ⟨data, -, rfl⟩ := List.mem_map.1 (List.mem_reverse.1 offered)
      exact .inr ⟨data, rfl⟩
    · exact .inl (id ▸ withdrawn.work e work)
  · intro u queued
    rw [← id] at queued
    obtain ⟨present, own⟩ := List.mem_filter.1 queued
    -- The bus has none of them any more, so that each has come back.
    obtain left | ⟨v, returned, key⟩ := withdrawn.back u present
    · exact absurd (eq_of_beq own) (ofStream_eq_nil_iff.1 gone u left)
    · exact ⟨v, List.mem_append_right _ returned, key⟩
  · rw [queue, recalled.queue, id]

/-- A frontend falls asleep with its stream stopped, and the device's stream is switched off after
that. -/
theorem rested_deselect (sound : a.Sound r h.bus.queue) (steered : a.Steered)
    (there : a.slots[slot]? = some s) :
    a.Rested slot s (deselect h a slot).2 ∧
      ∃ h', Stilled h a slot h' ∧ (a.feeds.streaming ≠ some slot → h' = h) ∧
        (deselect h a slot).1 =
          if a.feeds.streaming = some slot then (h'.perform (.streaming a.id false)).2 else h' := by
  have blind : Blind (fun _ _ => none : Hook → HookOutcome → Option Unit) :=
    ⟨fun _ _ _ => rfl, fun _ _ _ => rfl⟩
  have filters := (hidden_deselect blind h a slot).filters
  rw [deselect_eq] at filters ⊢
  by_cases busy : a.feeds.streaming = some slot
  · rw [if_pos busy] at filters ⊢
    let b : Adapter := { a with feeds := a.feeds.without slot }
    have gone : a.feeds.streaming.filter (· != slot) = none := by
      rw [busy]
      simp [Option.filter]
    have stopped : stopStreaming h (a.asleep slot) slot =
        (streamingOff (stopStream h b slot).1 (stopStream h b slot).2,
          (stopStream h b slot).2) := by
      unfold stopStreaming
      rw [asleep_filter]
      simp only [b, Feeds.without, gone]
    rw [stopped] at filters ⊢
    have sound' : b.Sound r h.bus.queue := { sound with }
    obtain ⟨stilled, stream, demux, same, parked⟩ := stilled_stopStream sound' there
    refine ⟨⟨⟨stream, demux, same, parked⟩, filters⟩, _, ⟨stilled.trace, stilled.queue⟩,
      fun other => absurd busy other, ?_⟩
    rw [if_pos busy, same]
    rfl
  · have rest : s.stream.submitted = 0 := by
      refine Stream.isRunning_eq_false_iff.1 ?_
      have idle := mt (steered.streaming slot).1 busy
      simpa [runs, there] using idle
    have before : Flow.Sound { host := h, stream := s.stream } (r (streamId a.id slot)) :=
      sound.streams slot s there
    have gone := before.idle rest
    rw [sound.ids slot s there] at gone
    rw [if_neg busy]
    exact ⟨rested_asleep busy there rest (before.atHome rest),
      h, stilled_idle gone, fun _ => rfl, (if_neg busy).symm⟩

structure Handed (a : Adapter) (slot : Nat) (s : Slot) (h' : Host) (a' : Adapter) : Prop where
  stream : ∃ s', a'.slots[slot]? = some s' ∧ s'.stream.submitted = s.stream.prepared ∧
    s'.stream.prepared = s.stream.prepared
  queue : (ofStream (streamId a.id slot) h'.bus.queue).map (·.key) =
    (List.range s.stream.prepared).map (UrbKey.mk (streamId a.id slot))

theorem handed_startStream (sound : a.Sound r h.bus.queue) (there : a.slots[slot]? = some s)
    (rest : s.stream.submitted = 0) (ok : (startStream h a slot).1 = .ok ()) :
    Handed a slot s (startStream h a slot).2.1 (startStream h a slot).2.2 ∧
      h.Steady (startStream h a slot).2.1 := by
  let f : Flow := { host := h, stream := s.stream }
  have before : f.Sound (r (streamId a.id slot)) := sound.streams slot s there
  have id : f.stream.id = streamId a.id slot := sound.ids slot s there
  have kept := (Flow.kept_sound_start before).1
  obtain ⟨h', demux, same, steady, bus⟩ := onStream_cases h there (.ok ()) Flow.start
  unfold startStream at ok ⊢
  rw [same] at ok ⊢
  obtain ⟨home, handed⟩ := (before.allOrNothing rest).all ok
  have within := (List.getElem?_eq_some_iff.1 there).1
  refine ⟨⟨⟨_, List.getElem?_set_self within, handed.submitted, handed.prepared⟩, ?_⟩,
    kept.host.trans steady⟩
  -- What was parked is all that the bus has of the stream, having had nothing before.
  have own : ofStream f.stream.id f.stream.stock = f.stream.stock := by
    refine List.filter_eq_self.2 fun u stocked => ?_
    have listed := List.mem_map_of_mem (f := (·.key)) stocked
    rw [home.keys] at listed
    obtain ⟨index, -, key⟩ := List.mem_map.1 listed
    simp [← key]
  have queue : h'.bus.queue = f.host.bus.queue ++ f.stream.stock :=
    (congrArg Bus.queue bus).trans handed.queue
  rw [queue, ← id, ofStream_append, before.idle rest, own, List.nil_append, home.keys]

/-- The device's stream was switched on, and then the bus took all the requests of a slot. -/
structure Restarted (h : Host) (a : Adapter) (slot : Nat) (s : Slot) (h' : Host) (a' : Adapter) :
    Prop extends Handed a slot s h' a' where
  trace : ∃ earlier outcome later, h'.trace =
    later ++ .called (.streaming a.id true) outcome :: (earlier ++ h.trace) ∧
    outcome.toExcept = .ok ()

theorem Restarted.after {h'' : Host} {a'' : Adapter} (restarted : Restarted h a slot s h' a')
    (steady : h'.Steady h'') (bus : h''.bus = h'.bus) (slots : a''.slots = a'.slots) :
    Restarted h a slot s h'' a'' where
  stream := by
    rw [slots]
    exact restarted.stream
  queue := by
    rw [bus]
    exact restarted.queue
  trace := by
    obtain ⟨earlier, outcome, later, trace, ok⟩ := restarted.trace
    obtain ⟨more, trace', -⟩ := steady.trace
    exact ⟨earlier, outcome, more ++ later, by rw [trace', trace, List.append_assoc], ok⟩

theorem restarted_startStreaming (sound : a.Sound r h.bus.queue) (props : Slot)
    (there : a.slots[slot]? = some s) (ok : (startStreaming h a slot props).1 = .ok ()) :
    Restarted h a slot s (startStreaming h a slot props).2.1
      (startStreaming h a slot props).2.2 := by
  obtain ⟨stilled, stream, demux, same, rest, prepared, home⟩ := stilled_stopStream sound there
  have worked := worked_stopStream sound slot
  have within := (List.getElem?_eq_some_iff.1 there).1
  unfold startStreaming at ok ⊢
  cases first : stopStream h a slot with
  | mk h₁ a₁ =>
    rw [first] at stilled same worked ok
    dsimp only at stilled same worked ok ⊢
    have there₁ : a₁.slots[slot]? = some { s with stream } := by
      rw [same]
      exact List.getElem?_set_self within
    have sound₁ := (worked.perform (.streaming a₁.id true) rfl).sound
    have id : a₁.id = a.id := worked.id
    cases asked : h₁.perform (.streaming a₁.id true) with
    | mk answer h₂ =>
      -- The call is on record with its outcome.
      have trace : h₂.trace = .called (.streaming a₁.id true)
          (h₁.driver.answer h₁.calls (.streaming a₁.id true)) :: h₁.trace :=
        (congrArg (·.2.trace) asked).symm
      have outcome : (h₁.driver.answer h₁.calls (.streaming a₁.id true)).toExcept = answer :=
        congrArg (·.1) asked
      rw [asked] at ok sound₁
      cases answer with
      | error e => cases ok
      | ok =>
        have started := handed_startStream sound₁ there₁ rest
        dsimp only at ok ⊢
        split at ok
        next => cases ok
        next h₃ a₃ running =>
          rw [running] at started
          obtain ⟨handed, steady⟩ := started rfl
          obtain ⟨earlier, before, -⟩ := stilled.trace
          obtain ⟨later, after, -⟩ := steady.trace
          have restarted : Restarted h a slot s h₃ a₃ :=
            { stream := by
                rw [← prepared]
                exact handed.stream
              queue := by
                rw [← prepared, ← id]
                exact handed.queue
              trace := ⟨earlier, _, later, by rw [after, trace, before, id], outcome⟩ }
          split at ok
          next =>
            have set := Host.steady_perform h₃
              (.pidFilterControl a₃.id props.filtering.isHardware) rfl
            have bus := Host.bus_perform h₃ (.pidFilterControl a₃.id props.filtering.isHardware)
            split at ok
            next => cases ok
            next h₄ succeeded =>
              rw [succeeded] at set bus
              exact restarted.after set bus rfl
          next => exact restarted

theorem restarted_startFeed {feed : Feed} (sound : a.Sound r h.bus.queue) (ready : a.Ready r)
    (idle : a.feeds.streaming = none) (ok : (startFeed h a feed).1 = .ok ()) :
    ∃ slot s, a.feeds.active = some slot ∧ a.slots[slot]? = some s ∧ 0 < s.stream.prepared ∧
      (startFeed h a feed).2.2.feeds.streaming = some slot ∧
      Restarted h a slot s (startFeed h a feed).2.1 (startFeed h a feed).2.2 := by
  have starting := starting_startFeed h a feed
  generalize startFeed h a feed = result at starting ok ⊢
  cases starting with
  | refused => cases ok
  | joined slot s busy =>
    rw [idle] at busy
    cases busy
  | failed => cases ok
  | first slot s h₁ a₁ _ awake there granted =>
    -- The gate is opened first, which is no concern of the streams.
    have sound' : (setGate h a (a.feeds.count + 1)).2.Sound r
        (setGate h a (a.feeds.count + 1)).1.bus.queue := { sound with }
    have feeds := (worked_first sound ready there).feeds
    have restarted := restarted_startStreaming sound' s there (congrArg (·.1) granted)
    rw [granted] at feeds restarted
    obtain ⟨demux, same, steady, bus⟩ := addFeed_cases h₁
      { a₁ with feeds := { a₁.feeds with streaming := a₁.feeds.active } } s feed
    have within := (List.getElem?_eq_some_iff.1 there).1
    have before : Flow.Sound { host := h, stream := s.stream } (r (streamId a.id slot)) :=
      sound.streams slot s there
    have prepared : 0 < s.stream.prepared := before.prepared_pos.2 (ready slot within)
    refine ⟨slot, s, awake, there, prepared, ?_, ?_⟩
    · rw [same]
      exact (congrArg Feeds.active feeds).trans awake
    · rw [same]
      have whole : Restarted h a slot s h₁ a₁ :=
        { stream := restarted.stream
          queue := restarted.queue
          trace := by
            obtain ⟨earlier, outcome, later, trace, answered⟩ := restarted.trace
            refine ⟨earlier ++ [.gated a.id (a.feeds.count + 1)], outcome, later, ?_, answered⟩
            rw [List.append_assoc]
            exact trace }
      exact whole.after steady bus rfl

end Adapter

end DvbReceiver
