import DvbReceiver.Proofs.Device.Bracket
import DvbReceiver.Proofs.Device.Lifetime
import DvbReceiver.Proofs.Device.Switching

set_option autoImplicit false

namespace DvbReceiver

def Event.isFailure : Event → Bool
  | .called _ (.failed _) => true
  | _ => false

namespace Session

open Host (Bracket)
open Lifespan (Switched powerAfter)

variable {s : Session} {l : Lifespan} {before calls : List (Bool × Bool)}

theorem turns_act (now : l.now = (s.host, s.device)) (step : Act) :
    ∃ turns, (l.run turns).now = ((s.act step).host, (s.act step).device) := by
  have host : l.host = s.host := congrArg Prod.fst now
  have device : l.device = s.device := congrArg Prod.snd now
  induction step using act_elim s with
  | startFeed i feed =>
    refine ⟨[.startFeed i feed], ?_⟩
    simp [Lifespan.run, Lifespan.turn, Lifespan.now, act, host, device]
  | stopFeed i feed =>
    refine ⟨[.stopFeed i feed], ?_⟩
    simp [Lifespan.run, Lifespan.turn, Lifespan.now, act, host, device]
  | frontend step i slot work same steps =>
    rw [same]
    exact onFrontend_elim (fun h d => ∃ turns, (l.run turns).now = (h, d)) steps ⟨[], now⟩
      fun _ steps => ⟨_, now ▸ Lifespan.now_run_parts l i slot steps⟩
  | complete position fill =>
    refine ⟨[.complete position fill], ?_⟩
    cases there : s.host.bus.queue[position]? with
    | none => simpa [Lifespan.run, Lifespan.turn, act, host, there] using now
    | some u => simp [Lifespan.run, Lifespan.turn, Lifespan.now, act, host, device, there]

theorem switched_acts (switched : Switched before calls l) (now : l.now = (s.host, s.device))
    (acts : List Act) :
    ∃ l' calls', Switched before calls' l' ∧
      l'.now = ((s.run acts).host, (s.run acts).device) := by
  induction acts generalizing s l calls with
  | nil => exact ⟨l, calls, switched, now⟩
  | cons step rest ih =>
    obtain ⟨turns, reached⟩ := turns_act now step
    obtain ⟨_, after⟩ := Lifespan.switched_turns switched turns
    exact ih after reached

theorem bracket_begin {h : Host} {product : Product} {config : Config}
    (unused : ∀ u ∈ h.bus.queue, u.key.stream ∉ streamIds)
    (settled : Device.Settled h (Device.bringUp h product config))
    (ok : (Device.bringUp h product config).1 = .ok ()) :
    Bracket h (begin (Device.bringUp h product config)).host
      (begin (Device.bringUp h product config)).device.streams := by
  have foreign (u : Urb) (queued : u ∈ h.bus.queue) : maxAdapters ≤ u.key.adapter := by
    have unknown := unused u queued
    unfold UrbKey.adapter
    simp only [streamIds, List.mem_range, maxAdapters, maxFrontends] at *
    omega
  have silent : (begin (Device.bringUp h product config)).device.streams = fun _ => false := by
    obtain ⟨-, -, -, unfed⟩ := settled.ok ok
    funext i
    refine Bool.eq_false_iff.2 fun streams => ?_
    obtain ⟨a, there, busy⟩ := (Option.any_eq_true _ _).1 streams
    rw [unfed a (List.mem_of_getElem? there)] at busy
    cases busy
  rw [silent]
  exact Device.bracket_bringUp (Bracket.start h foreign) product config

/-- Every stream that was switched on since `h₀` is off again, and so is the power, which nobody
uses. -/
structure Quiescent (h₀ h : Host) (d : Device) : Prop where
  streams : ∃ events, h.trace = events ++ h₀.trace ∧ ∀ i, streamingAfter events i = false
  power : ∃ calls, h.log switchings = calls ++ h₀.log switchings ∧ powerAfter calls = false
  users : d.power.users = 0

/-- What the exit of the device of `s` leaves behind: no request is with the bus, but the streams and
the power are as they were. -/
structure Abandoned (h₀ : Host) (s : Session) (h : Host) (d : Device) : Prop where
  queue : ∀ u ∈ h.bus.queue, u.key.stream ∉ streamIds
  streams : ∃ events, h.trace = events ++ h₀.trace ∧ streamingAfter events = s.device.streams
  power : ∃ calls, h.log switchings = calls ++ h₀.log switchings ∧
    (0 < s.device.power.users ↔ powerAfter calls = true)
  users : d.power = s.device.power

theorem Abandoned.quiescent_iff {h₀ h : Host} {d : Device} (left : Abandoned h₀ s h d) :
    Quiescent h₀ h d ↔ (∀ i, s.device.streams i = false) ∧ s.device.power.users = 0 := by
  obtain ⟨-, ⟨events, trace, streaming⟩, ⟨calls, log, powered⟩, users⟩ := left
  constructor
  · intro quiescent
    obtain ⟨events', trace', off⟩ := quiescent.streams
    have same : events' = events := List.append_cancel_right (trace'.symm.trans trace)
    rw [same, streaming] at off
    exact ⟨off, users ▸ quiescent.users⟩
  · intro ⟨off, idle⟩
    have dark : powerAfter calls = false := by simpa [idle] using powered
    exact ⟨⟨events, trace, fun i => by rw [streaming, off i]⟩, ⟨calls, log, dark⟩, users ▸ idle⟩

theorem Sound.abandoned {h₀ : Host} {size : Nat} {r : Nat → List UrbIdentity}
    (sound : Sound h₀ size r s) (bracket : Bracket h₀ s.host s.device.streams)
    (switched : Switched (h₀.log switchings) calls l) (now : l.now = (s.host, s.device)) :
    Abandoned h₀ s (s.device.exit s.host).1 (s.device.exit s.host).2 := by
  have up : s.device.phase ≠ .uninitialized := by
    rw [sound.phase]
    decide
  have exit : s.device.exit s.host = s.device.tearDown s.host := if_neg up
  have unpowered := Device.unpowered_tearDown s.host s.device
  have host : l.host = s.host := congrArg Prod.fst now
  have device : l.device = s.device := congrArg Prod.snd now
  constructor
  next => exact sound.exit.1.queue
  next =>
    obtain ⟨events, trace, -, streaming, -⟩ := Device.bracket_exit bracket s.device
    exact ⟨events, trace, streaming⟩
  next =>
    -- Neither is the power switched by an exit nor does anybody let go of it.
    refine ⟨calls, ?_, ?_⟩
    next => rw [exit, unpowered.log, ← switched.log, host]
    next => rw [← switched.powered, device]
  next =>
    rw [exit]
    exact unpowered.power

/-- A device leaves its streams and its power on or off as they are when its exit comes, so that all
is off in the end exactly if all was off before. -/
theorem abandoned_run (h : Host) (product : Product) (config : Config)
    (unused : ∀ u ∈ h.bus.queue, u.key.stream ∉ streamIds)
    (ok : (Device.bringUp h product config).1 = .ok ()) (acts : List Act) :
    let s := run (begin (Device.bringUp h product config)) acts
    let gone := s.device.exit s.host
    Abandoned h s gone.1 gone.2 ∧
      (Quiescent h gone.1 gone.2 ↔
        (∀ i, s.device.streams i = false) ∧ s.device.power.users = 0) := by
  intro s gone
  have settled := Device.settled_bringUp h product config fun _ => ofStream_nil_of_unused unused
  obtain ⟨r, fresh⟩ := sound_begin settled ok
  have bracket := bracket_begin unused settled ok
  let new : Lifespan := { host := h, device := { product, config } }
  have off : Switched (h.log switchings) [] new :=
    ⟨rfl, trivial, by simp [new, powerAfter], by simp, rfl⟩
  obtain ⟨turns, up⟩ := Lifespan.now_bringUp h product config
  obtain ⟨calls, switched⟩ := Lifespan.switched_turns off turns
  obtain ⟨l, calls', after, now⟩ :=
    switched_acts (s := begin (Device.bringUp h product config)) switched up acts
  have left := (sound_run fresh acts).abandoned (bracket_run fresh bracket acts) after now
  exact ⟨left, left.quiescent_iff⟩

theorem abandoned_run_bench :
    (∀ u ∈ benchHost.bus.queue, u.key.stream ∉ streamIds) ∧
      (Device.bringUp benchHost ⟨"receiver", [], []⟩ {}).1 = .ok () ∧
      let s := run (begin (Device.bringUp benchHost ⟨"receiver", [], []⟩ {}))
        [.wake 0 0, .startFeed 0 ⟨0x100, 0⟩, .complete 0 (.result .ok 4), .wake 0 1,
          .stopFeed 0 ⟨0x100, 0⟩, .sleep 0 1, .sleep 0 0]
      let gone := s.device.exit s.host
      Abandoned benchHost s gone.1 gone.2 ∧
        (Quiescent benchHost gone.1 gone.2 ↔
          (∀ i, s.device.streams i = false) ∧ s.device.power.users = 0) := by
  have unused : ∀ u ∈ benchHost.bus.queue, u.key.stream ∉ streamIds := by
    simp [benchHost, Bench.newBus]
  have ok : (Device.bringUp benchHost ⟨"receiver", [], []⟩ {}).1 = .ok () := by rfl
  exact ⟨unused, ok, abandoned_run _ _ _ unused ok _⟩

/-- No call fails, and yet the stream and the power of a frontend that is awake stay on after the
exit of its device. -/
theorem unquiescent_bench :
    let up := Device.bringUp benchHost ⟨"receiver", [], []⟩ {}
    let s := run (begin up) [.wake 0 0, .startFeed 0 ⟨0x100, 0⟩]
    let gone := s.device.exit s.host
    up.1 = .ok () ∧ gone.1.trace.any Event.isFailure = false ∧
      streamingAfter gone.1.trace 0 = true ∧ gone.2.power.users = 1 ∧ gone.1.powered = true ∧
      ¬ Quiescent benchHost gone.1 gone.2 := by
  refine ⟨rfl, rfl, rfl, rfl, rfl, fun rest => ?_⟩
  exact Nat.succ_ne_zero 0 rest.users

end Session

end DvbReceiver
