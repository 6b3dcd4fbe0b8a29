import DvbReceiver.Proofs.Adapter.Rollback
import DvbReceiver.Proofs.Device.Quiescence

set_option autoImplicit false

namespace DvbReceiver.Session

open Host (Bracket)

variable {h₀ : Host} {size : Nat} {r : Nat → List UrbIdentity} {s : Session} {i : Nat} {a : Adapter}
  {feed : Feed} {e : Failure}

/-- Nothing has come of an attempt to start a feed on an adapter of a device that was brought up on
host `h₀`, neither on the adapter itself nor elsewhere on the device. -/
structure Unfed (h₀ : Host) (s : Session) (i : Nat) (a : Adapter) (feed : Feed) (e : Failure)
    (result : Except Failure Unit × Host × Device) : Prop where
  adapter : ∃ a', result.2.2 = { s.device with adapters := s.device.adapters.set i a' } ∧
    Adapter.Undone s.host a feed e result.2.1 a'
  streaming : ∃ before events, s.host.trace = before ++ h₀.trace ∧
    result.2.1.trace = events ++ (before ++ h₀.trace) ∧
    streamingAfter (events ++ before) = streamingAfter before

theorem unfed_startFeed (sound : Sound h₀ size r s) (bracket : Bracket h₀ s.host s.device.streams)
    (there : s.device.adapters[i]? = some a)
    (failed : (s.device.startFeed s.host i feed).1 = .error e) :
    s.Unfed h₀ i a feed e (s.device.startFeed s.host i feed) := by
  have live := sound.live
  have member := List.mem_of_getElem? there
  have after := Device.bracket_startFeed live bracket i feed
  unfold Device.startFeed at failed after ⊢
  rw [Device.onAdapter_some _ there] at failed after ⊢
  have undone := Adapter.undone_startFeed (live.sound a member) (live.ready a member)
    (live.steered a member) (live.alone there) failed
  refine ⟨⟨_, rfl, undone⟩, ?_⟩
  rw [Device.streams_set there, undone.feeds, ← Device.streams_some there,
    Function.update_eq_self] at after
  have grown := (Adapter.spares_startFeed (live.sound a member) (live.ready a member) feed).events
  obtain ⟨before, trace, -, on, -⟩ := bracket
  obtain ⟨whole, trace', -, on', -⟩ := after
  obtain ⟨events, more, -⟩ := grown
  rw [trace] at more
  refine ⟨before, events, trace, more, ?_⟩
  -- What has happened in all since `h₀` is told in one way only.
  have same : whole = events ++ before := by
    refine List.append_cancel_right (trace'.symm.trans ?_)
    rw [List.append_assoc]
    exact more
  rw [← same, on', on]

/-- Whatever has been done to a device before, whichever hooks fail, and whichever requests the bus
refuses. -/
theorem unfed_run (h : Host) (product : Product) (config : Config)
    (unused : ∀ u ∈ h.bus.queue, u.key.stream ∉ streamIds)
    (ok : (Device.bringUp h product config).1 = .ok ()) (acts : List Act) :
    let s := run (begin (Device.bringUp h product config)) acts
    ∀ i a feed e, s.device.adapters[i]? = some a →
      (s.device.startFeed s.host i feed).1 = .error e →
      s.Unfed h i a feed e (s.device.startFeed s.host i feed) := by
  intro s i a feed e there failed
  have settled := Device.settled_bringUp h product config fun _ => ofStream_nil_of_unused unused
  obtain ⟨r, fresh⟩ := sound_begin settled ok
  have bracket := bracket_run fresh (bracket_begin unused settled ok) acts
  exact unfed_startFeed (sound_run fresh acts) bracket there failed

def refusingHost : Host :=
  { benchHost with
    bus := { Bench.newBus .full with policy := Bench.BusFaults.policy { submission := some 2 } } }

theorem unfed_run_bench :
    let s := run (begin (Device.bringUp refusingHost ⟨"receiver", [], []⟩ {})) [.wake 0 0]
    let result := s.device.startFeed s.host 0 ⟨0x100, 0⟩
    (∀ u ∈ refusingHost.bus.queue, u.key.stream ∉ streamIds) ∧
      (Device.bringUp refusingHost ⟨"receiver", [], []⟩ {}).1 = .ok () ∧
      result.1 = .error (.transfer 1 "injected submit failure") ∧
      (∃ a, s.device.adapters[0]? = some a ∧
        s.Unfed refusingHost 0 a ⟨0x100, 0⟩ (.transfer 1 "injected submit failure") result) ∧
      (result.2.2.startFeed result.2.1 0 ⟨0x100, 0⟩).2.1.faults = result.2.1.faults ∧
      (result.2.2.startFeed result.2.1 0 ⟨0x100, 0⟩).1 = .ok () := by
  have unused : ∀ u ∈ refusingHost.bus.queue, u.key.stream ∉ streamIds := by
    simp [refusingHost, benchHost, Bench.newBus]
  have ok : (Device.bringUp refusingHost ⟨"receiver", [], []⟩ {}).1 = .ok () := by rfl
  intro s result
  have failed : result.1 = .error (.transfer 1 "injected submit failure") := by rfl
  have present : (s.device.adapters[0]?).isSome = true := by rfl
  obtain ⟨a, there⟩ := Option.isSome_iff_exists.1 present
  exact ⟨unused, ok, failed, ⟨a, there, unfed_run _ _ _ unused ok [.wake 0 0] 0 a _ _ there failed⟩,
    by decide +kernel, by decide +kernel⟩

end DvbReceiver.Session
