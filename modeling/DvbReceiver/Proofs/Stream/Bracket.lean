import DvbReceiver.Proofs.Bracket
import DvbReceiver.Proofs.Stream.Invariant
import DvbReceiver.Proofs.Stream.Provision

set_option autoImplicit false

namespace DvbReceiver.Flow

open Host (Bracket)

variable {h₀ : Host} {on : Nat → Bool} {f : Flow} {u : Urb} {roster : List UrbIdentity}

theorem bracket_deliver (bracket : Bracket h₀ f.host on) (u : Urb) :
    Bracket h₀ (f.deliver u).host on :=
  bracket.noteAll (by simp [Event.isPlain])

theorem bracket_requeue (bracket : Bracket h₀ f.host on)
    (streaming : f.stream.stopping = false → on u.key.adapter = true) :
    Bracket h₀ (f.requeue u).2.host on := by
  obtain ⟨-, same⟩ | ⟨lowered, -, same, -⟩ | ⟨lowered, -, host, -⟩ := requeue_cases f u
  next =>
    rw [same]
    exact bracket
  next =>
    rw [same]
    exact bracket.submit (streaming lowered)
  next =>
    rw [host]
    exact bracket.submit (streaming lowered)

/-- A request that comes back goes to the bus again only while its stream is not being stopped. -/
theorem bracket_complete {v : Urb} (bracket : Bracket h₀ f.host on) (host : Host)
    (trace : host.trace = f.host.trace) (removed : Removed f.host.bus.queue u host.bus.queue)
    (same : v.key = u.key) (streaming : f.stream.stopping = false → on v.key.adapter = true) :
    Bracket h₀ (complete { f with host } v).host on := by
  have noted : Bracket h₀ (host.note (.returned v)) on := bracket.returned trace removed same
  have key : v.settled.key = v.key := v.key_settled
  unfold complete
  dsimp only
  split
  next => exact noted
  next =>
    split
    next => exact noted
    next =>
      have moved := bracket_requeue (u := v.settled)
        (bracket_deliver (f := { f with host := host.note (.returned v) }) noted v)
        (by rw [key]; exact streaming)
      split
      next requeued =>
        rw [requeued] at moved
        exact moved
      next left _ requeued =>
        rw [requeued] at moved
        exact moved

theorem bracket_cancel (bracket : Bracket h₀ f.host on) (stopping : f.stream.stopping = true)
    (index : Nat) : Bracket h₀ (f.cancel index).host on := by
  obtain ⟨host, -, cancelled, same, queue⟩ | ⟨u, fill, host, -, cancelled, completed, removed⟩ :=
    cancel_cases f index
  next =>
    have trace : host.trace = f.host.trace := (congrArg (·.2.trace) cancelled).symm
    rw [same]
    exact bracket.of_eq trace queue
  next =>
    have trace : host.trace = f.host.trace := (congrArg (·.2.trace) cancelled).symm
    rw [completed]
    refine bracket_complete bracket host trace removed (u.key_fill fill) fun lowered => ?_
    rw [stopping] at lowered
    cases lowered

theorem bracket_stop (bracket : Bracket h₀ f.host on) : Bracket h₀ f.stop.host on := by
  have invariant : StopInvariant fun f => Bracket h₀ f.host on :=
    { flag := fun _ _ bracket => bracket
      cancel := fun _ index bracket stopping => bracket_cancel bracket stopping index
      submitted := fun _ _ bracket => bracket }
  exact invariant.stop bracket

theorem startInvariant_bracket (h₀ : Host) (on : Nat → Bool) (roster : List UrbIdentity) :
    StartInvariant fun f => Bracket h₀ f.host on ∧ f.Custody roster [] ∧
      on (f.stream.id / maxFrontends) = true := by
  have handed {f : Flow} {index : Nat} {u : Urb} {stream : Stream} (bracket : Bracket h₀ f.host on)
      (custody : f.Custody roster []) (streaming : on (f.stream.id / maxFrontends) = true)
      (taken : f.stream.takeParked index = (some u, stream)) :
      Bracket h₀ (f.host.submit u).2 on := by
    have own : u.key.stream = f.stream.id := by
      rw [← (kept_takeParked taken).1.id]
      exact (custody_takeParked custody taken).key_hand.1
    refine bracket.submit ?_
    rw [UrbKey.adapter, own]
    exact streaming
  constructor
  next =>
    constructor
    next =>
      rintro f flag ⟨bracket, custody, streaming⟩
      exact ⟨bracket, custody_setStopping custody flag, streaming⟩
    next =>
      rintro f index ⟨bracket, custody, streaming⟩ stopping
      refine ⟨bracket_cancel bracket stopping index, custody_cancel custody index, ?_⟩
      rw [(returned_cancel f index).id]
      exact streaming
    next =>
      rintro f n ⟨bracket, custody, streaming⟩
      exact ⟨bracket, custody, streaming⟩
  next =>
    rintro f index u stream reason host ⟨bracket, custody, streaming⟩ taken refused
    have after := handed bracket custody streaming taken
    obtain ⟨kept, left, -⟩ := handing_refused custody taken refused
    rw [refused] at after
    exact ⟨after, left, by rw [kept.id]; exact streaming⟩
  next =>
    rintro f index u stream host ⟨bracket, custody, streaming⟩ taken accepted
    have after := handed bracket custody streaming taken
    obtain ⟨kept, left, -⟩ := handing_accepted custody taken accepted
    rw [accepted] at after
    exact ⟨after, left, by rw [(kept_takeParked taken).1.id]; exact streaming⟩

theorem bracket_start (bracket : Bracket h₀ f.host on) (sound : f.Sound roster)
    (streaming : on (f.stream.id / maxFrontends) = true) : Bracket h₀ f.start.2.host on :=
  ((startInvariant_bracket h₀ on roster).start ⟨bracket, sound.custody, streaming⟩).1

theorem bracket_prepare (bracket : Bracket h₀ f.host on) (layout : Layout) :
    Bracket h₀ (f.prepare layout).2.host on := by
  unfold prepare
  split
  next => exact bracket
  next =>
    split
    next => exact bracket
    next =>
      split
      next => exact bracket
      next =>
        dsimp only
        obtain ⟨buffers, bus, got, -, -, same, -, -⟩ | ⟨bus, -, refused, same, -, -⟩ :=
          f.stream.pool.allocate_cases (f.host.bus.clearHalt layout.pipe).2 layout.count
            layout.bufferSize
        next =>
          rw [got]
          exact bracket.of_eq rfl same.queue
        next =>
          rw [refused]
          exact bracket.of_eq rfl same.queue

theorem bracket_release (bracket : Bracket h₀ f.host on) : Bracket h₀ f.release.host on := by
  have stopped := bracket_stop bracket
  unfold release
  dsimp only
  split
  next => exact stopped
  next lane _ =>
    refine stopped.of_eq rfl ?_
    show (f.stop.host.bus.freeAll _).queue = f.stop.host.bus.queue
    rw [Bus.freeAll_eq]

end DvbReceiver.Flow
