import DvbReceiver.Bench.Stream
import DvbReceiver.Proofs.Stream.Provision

set_option autoImplicit false

namespace DvbReceiver

namespace Flow

variable {f : Flow} {roster : List UrbIdentity}

/-- Where the requests of a stream are between two steps. -/
structure Ownership (f : Flow) : Prop where
  once : ∀ i < f.stream.prepared,
    (f.host.bus.queue ++ f.stream.parked.filterMap id).countP (·.key == ⟨f.stream.id, i⟩) = 1
  place : ∀ i < f.stream.prepared,
    (∃ u, f.stream.parked[i]? = some (some u) ∧ u.key = ⟨f.stream.id, i⟩ ∧
      f.host.bus.queue.countP (·.key == ⟨f.stream.id, i⟩) = 0) ∨
    (f.stream.parked[i]? = some none ∧
      f.host.bus.queue.countP (·.key == ⟨f.stream.id, i⟩) = 1)
  home : ∀ i u, f.stream.parked[i]? = some (some u) →
    i < f.stream.prepared ∧ u.key = ⟨f.stream.id, i⟩
  queued : ∀ u ∈ f.host.bus.queue, u.key.stream = f.stream.id → u.key.index < f.stream.prepared
  submitted : f.stream.submitted = 0 ∨ f.stream.submitted = f.stream.prepared
  idle : f.stream.submitted = 0 → ∀ u ∈ f.host.bus.queue, u.key.stream ≠ f.stream.id
  layout : f.stream.layout.isSome = true ↔ 0 < f.stream.prepared
  count : ∀ layout, f.stream.layout = some layout → f.stream.prepared = layout.count

theorem Sound.ownership (sound : f.Sound roster) : f.Ownership where
  once i within := sound.custody.once (by rwa [sound.size])
  place i within := sound.custody.place (by rwa [sound.size])
  home i u present := by
    have within := (List.getElem?_eq_some_iff.1 present).1
    exact ⟨by rwa [← sound.size], sound.custody.key_parked present⟩
  queued u present own := by
    have mine : u ∈ ofStream f.stream.id f.host.bus.queue :=
      List.mem_filter.2 ⟨present, by simp [own]⟩
    rw [← sound.size]
    exact (sound.custody.key_eq (by simp [mine])).2
  submitted := sound.submitted
  idle rest := ofStream_eq_nil_iff.1 (sound.idle rest)
  layout := by
    have layout := sound.layout
    by_cases bare : f.stream.prepared = 0
    · simp_all
    · rw [if_neg bare] at layout
      obtain ⟨found, there, -⟩ := Option.map_eq_some_iff.1 layout
      simp [there, Nat.pos_of_ne_zero bare]
  count found there := by
    have layout := sound.layout
    rw [there] at layout
    by_cases bare : f.stream.prepared = 0
    · simp [bare] at layout
    · rw [if_neg bare] at layout
      exact (Option.some.inj layout).symm

inductive Act where
  | prepare (layout : Layout)
  | start
  | stop
  | release
  | complete (position : Nat) (fill : Fill)
  | foreign (urb : Urb)

def act (f : Flow) : Act → Flow
  | .prepare layout => (f.prepare layout).2
  | .start => f.start.2
  | .stop => f.stop
  | .release => f.release
  | .complete position fill =>
    match f.host.bus.queue[position]? with
    | none => f
    | some u =>
      let queue := f.host.bus.queue.eraseIdx position
      let f := { f with host := { f.host with bus := { f.host.bus with queue } } }
      if u.key.stream = f.stream.id then f.complete (u.fill fill) else f
  | .foreign u =>
    if u.key.stream = f.stream.id then f
    else { f with host := (f.host.submit u).2 }

def run (f : Flow) (acts : List Act) : Flow :=
  acts.foldl act f

theorem sound_submit_foreign (sound : f.Sound roster) {u : Urb}
    (foreign : u.key.stream ≠ f.stream.id) :
    Sound { f with host := (f.host.submit u).2 } roster := by
  refine Stream.Sound.of_ofStream_eq sound ?_
  rw [Host.queue_submit]
  split
  next => rw [ofStream_append, ofStream_cons_foreign foreign, ofStream_nil, List.append_nil]
  next => rfl

theorem sound_act (sound : f.Sound roster) (step : Act) :
    ∃ roster', (f.act step).Sound roster' := by
  cases step with
  | prepare layout =>
    obtain ⟨roster', provided⟩ := provided_prepare sound layout
    exact ⟨roster', provided.sound⟩
  | start => exact ⟨roster, (kept_sound_start sound).2⟩
  | stop => exact ⟨roster, sound_stop sound⟩
  | release => exact ⟨[], (step_release sound).sound⟩
  | complete position fill =>
    refine ⟨roster, ?_⟩
    dsimp only [act]
    split
    next => exact sound
    next u there =>
      have removed := removed_eraseIdx there
      split
      next own => exact sound_complete sound removed own fill
      next foreign => exact Stream.Sound.of_ofStream_eq sound (removed.ofStream_eq foreign)
  | foreign u =>
    refine ⟨roster, ?_⟩
    dsimp only [act]
    split
    next => exact sound
    next foreign =>
      exact sound_submit_foreign sound foreign

theorem sound_run (sound : f.Sound roster) (acts : List Act) :
    ∃ roster', (f.run acts).Sound roster' := by
  induction acts generalizing f roster with
  | nil => exact ⟨roster, sound⟩
  | cons step rest ih =>
    obtain ⟨between, after⟩ := sound_act sound step
    exact ih after

theorem sound_fresh {host : Host} {stream : Nat} (sink : Option String)
    (unused : ∀ u ∈ host.bus.queue, u.key.stream ≠ stream) :
    Sound { host, stream := { id := stream, sink } } [] :=
  Stream.sound_bare (s := { id := stream, sink }) (ofStream_eq_nil_iff.2 unused) {}

/-- No request of a stream is lost or doubled, whatever is done to the stream and however its
requests come back. -/
theorem ownership_run (host : Host) (stream : Nat) (sink : Option String) (acts : List Act)
    (unused : ∀ u ∈ host.bus.queue, u.key.stream ≠ stream) :
    Ownership (run { host, stream := { id := stream, sink } } acts) := by
  obtain ⟨roster, sound⟩ := sound_run (sound_fresh sink unused) acts
  exact sound.ownership

theorem ownership_run_bulk :
    (∀ u ∈ (Bench.bareHost (Bench.newBus .high)).bus.queue, u.key.stream ≠ 1) ∧
      Ownership (run
        { host := Bench.bareHost (Bench.newBus .high), stream := { id := 1, sink := some "demux" } }
        [.prepare ⟨2, 0x81, .bulk 4⟩, .start, .complete 0 (.result .ok 4), .stop, .start]) := by
  have unused : ∀ u ∈ (Bench.bareHost (Bench.newBus .high)).bus.queue, u.key.stream ≠ 1 := by
    simp [Bench.bareHost, Bench.newBus]
  exact ⟨unused, ownership_run _ 1 _ _ unused⟩

end Flow

end DvbReceiver
