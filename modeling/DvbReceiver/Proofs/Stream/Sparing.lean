import DvbReceiver.Proofs.Bracket
import DvbReceiver.Proofs.Stream.Invariant

set_option autoImplicit false

namespace DvbReceiver

def Hook.adapter? : Hook → Option Nat
  | .power _ | .downloadFirmware _ | .i2cTransfer _ => none
  | .frontendAttach i _ | .tunerAttach i _ | .streaming i _ | .pidFilter i .. => some i
  | .pidFilterControl i _ | .frontendControl i .. | .demodInit i _ | .demodSleep i _ => some i
  | .demodDetach i _ => some i

/-- The adapter that takes part in an event, whether or not it gets to know. -/
def Event.party? : Event → Option Nat
  | .called hook _ => hook.adapter?
  | .submitted u | .refused u | .returned u => some u.key.adapter
  | .delivered stream _ => some (stream / maxFrontends)
  | .attached i _ | .gated i _ | .offered i _ => some i

def ofOtherAdapters (adapter : Nat) (queue : List Urb) : List Urb :=
  queue.filter (·.key.adapter ≠ adapter)

variable {i : Nat} {queue queue' : List Urb} {u : Urb}

theorem ofOtherAdapters_submitted (own : u.key.adapter = i) (queue : List Urb) :
    ofOtherAdapters i (queue ++ [u]) = ofOtherAdapters i queue := by
  simp [ofOtherAdapters, List.filter_append, own]

theorem ofOtherAdapters_removed (removed : Removed queue u queue') (own : u.key.adapter = i) :
    ofOtherAdapters i queue' = ofOtherAdapters i queue := by
  obtain ⟨before, after, rfl, rfl⟩ := removed
  simp [ofOtherAdapters, List.filter_append, own]

namespace Host

variable {h₀ h h' : Host}

/-- Since `h₀` nobody but adapter `i` was at work: the requests of the others are where they were,
and no event was about another one. -/
structure Spares (i : Nat) (h₀ h : Host) : Prop extends Steady h₀ h where
  queue : ofOtherAdapters i h.bus.queue = ofOtherAdapters i h₀.bus.queue
  events : ∃ events, h.trace = events ++ h₀.trace ∧ ∀ e ∈ events, ∀ j, e.party? = some j → j = i

namespace Spares

theorem refl (i : Nat) (h : Host) : Spares i h h :=
  { Steady.refl h with
    queue := rfl
    events := ⟨[], rfl, by simp⟩ }

theorem trans {h₁ h₂ h₃ : Host} (first : Spares i h₁ h₂) (second : Spares i h₂ h₃) :
    Spares i h₁ h₃ :=
  { first.toSteady.trans second.toSteady with
    queue := second.queue.trans first.queue
    events := by
      obtain ⟨earlier, before, own⟩ := first.events
      obtain ⟨later, after, own'⟩ := second.events
      refine ⟨later ++ earlier, by rw [after, before, List.append_assoc], fun e there => ?_⟩
      exact (List.mem_append.1 there).elim (own' e) (own e) }

theorem noteAll (spares : Spares i h₀ h) {events : List Event}
    (own : ∀ e ∈ events, ∀ j, e.party? = some j → j = i)
    (quiet : ∀ e ∈ events, e.demodMark? = none) : Spares i h₀ (h.noteAll events) := by
  refine spares.trans { steady_noteAll h quiet with queue := by rw [bus_noteAll], events := ?_ }
  rw [noteAll_eq]
  exact ⟨events.reverse, rfl, fun e there => own e (List.mem_reverse.1 there)⟩

theorem note (spares : Spares i h₀ h) {e : Event} (own : ∀ j, e.party? = some j → j = i)
    (quiet : e.demodMark? = none) : Spares i h₀ (h.note e) := by
  have own' : ∀ e' ∈ [e], ∀ j, e'.party? = some j → j = i := by simpa using own
  have quiet' : ∀ e' ∈ [e], e'.demodMark? = none := by simpa using quiet
  exact spares.noteAll own' quiet'

theorem perform (spares : Spares i h₀ h) {hook : Hook} (own : ∀ j, hook.adapter? = some j → j = i)
    (other : hook.isDetach = false) : Spares i h₀ (h.perform hook).2 :=
  spares.trans { steady_perform h hook other with
    queue := rfl
    events := ⟨[.called hook (h.driver.answer h.calls hook)], rfl, by
      simpa [Event.party?] using own⟩ }

theorem submit (spares : Spares i h₀ h) (own : u.key.adapter = i) : Spares i h₀ (h.submit u).2 := by
  refine spares.trans { steady_submit h u with queue := ?_, events := ?_ }
  · rw [queue_submit]
    split
    next => exact ofOtherAdapters_submitted own h.bus.queue
    next => rfl
  · unfold Host.submit
    split
    next => exact ⟨[.submitted u], rfl, by simp [Event.party?, own]⟩
    next => exact ⟨[.refused u], rfl, by simp [Event.party?, own]⟩

theorem removed (spares : Spares i h₀ h) (steady : h.Steady h') (trace : h'.trace = h.trace)
    (removed : Removed h.bus.queue u h'.bus.queue) (own : u.key.adapter = i) : Spares i h₀ h' :=
  spares.trans { steady with
    queue := ofOtherAdapters_removed removed own
    events := ⟨[], trace, by simp⟩ }

theorem unmoved (spares : Spares i h₀ h) (steady : h.Steady h') (trace : h'.trace = h.trace)
    (queue : h'.bus.queue = h.bus.queue) : Spares i h₀ h' :=
  spares.trans { steady with
    queue := by rw [queue]
    events := ⟨[], trace, by simp⟩ }

end Spares

end Host

namespace Flow

open Host (Spares)

variable {h₀ : Host} {f : Flow} {roster : List UrbIdentity}

theorem spares_deliver (spares : Spares i h₀ f.host) (number : f.stream.id / maxFrontends = i)
    (u : Urb) : Spares i h₀ (f.deliver u).host :=
  spares.noteAll (by simp [Event.party?, number]) (by simp [Event.demodMark?])

theorem spares_requeue (spares : Spares i h₀ f.host) (own : u.key.adapter = i) :
    Spares i h₀ (f.requeue u).2.host := by
  obtain ⟨-, same⟩ | ⟨-, -, same, -⟩ | ⟨-, -, host, -⟩ := requeue_cases f u
  next =>
    rw [same]
    exact spares
  next =>
    rw [same]
    exact spares.submit own
  next =>
    rw [host]
    exact spares.submit own

theorem spares_complete (spares : Spares i h₀ f.host) (number : f.stream.id / maxFrontends = i)
    (own : u.key.adapter = i) : Spares i h₀ (f.complete u).host := by
  have noted : Spares i h₀ (f.host.note (.returned u)) :=
    spares.note (by simp [Event.party?, own]) rfl
  unfold complete
  dsimp only
  split
  next => exact noted
  next =>
    split
    next => exact noted
    next =>
      have delivered := spares_deliver (f := { f with host := f.host.note (.returned u) }) noted
        number u
      have moved := spares_requeue (u := u.settled) delivered (by
        rw [u.key_settled]
        exact own)
      split
      next requeued =>
        rw [requeued] at moved
        exact moved
      next requeued =>
        rw [requeued] at moved
        exact moved

theorem spares_cancel (spares : Spares i h₀ f.host) (number : f.stream.id / maxFrontends = i)
    (index : Nat) : Spares i h₀ (f.cancel index).host := by
  have steady := Host.steady_cancel f.host ⟨f.stream.id, index⟩
  obtain ⟨host, -, cancelled, same, queue⟩ | ⟨u, fill, host, key, cancelled, completed, removed⟩ :=
    cancel_cases f index
  next =>
    have trace : host.trace = f.host.trace := (congrArg (·.2.trace) cancelled).symm
    rw [cancelled] at steady
    rw [same]
    exact spares.unmoved steady trace queue
  next =>
    have trace : host.trace = f.host.trace := (congrArg (·.2.trace) cancelled).symm
    have own : u.key.adapter = i := by rw [key, UrbKey.adapter, number]
    rw [cancelled] at steady
    rw [completed]
    have taken := spares.removed steady trace removed own
    refine spares_complete (f := { f with host }) taken number ?_
    rw [u.key_fill]
    exact own

theorem spares_stop (spares : Spares i h₀ f.host) (number : f.stream.id / maxFrontends = i) :
    Spares i h₀ f.stop.host := by
  have invariant : StopInvariant fun f =>
      Spares i h₀ f.host ∧ f.stream.id / maxFrontends = i :=
    { flag := fun _ _ holds => holds
      cancel := by
        rintro f index ⟨spares, number⟩ -
        refine ⟨spares_cancel spares number index, ?_⟩
        rwa [(returned_cancel f index).id]
      submitted := fun _ _ holds => holds }
  exact (invariant.stop ⟨spares, number⟩).1

theorem startInvariant_spares (i : Nat) (h₀ : Host) (roster : List UrbIdentity) :
    StartInvariant fun f => Spares i h₀ f.host ∧ f.Custody roster [] ∧
      f.stream.id / maxFrontends = i := by
  -- What is handed to the bus was parked with the stream, so that it is the stream's own.
  have handed {f : Flow} {index : Nat} {u : Urb} {stream : Stream} (spares : Spares i h₀ f.host)
      (custody : f.Custody roster []) (number : f.stream.id / maxFrontends = i)
      (taken : f.stream.takeParked index = (some u, stream)) :
      Spares i h₀ (f.host.submit u).2 := by
    have own : u.key.stream = f.stream.id := by
      rw [← (kept_takeParked taken).1.id]
      exact (custody_takeParked custody taken).key_hand.1
    exact spares.submit (by rw [UrbKey.adapter, own, number])
  constructor
  next =>
    constructor
    next =>
      rintro f flag ⟨spares, custody, number⟩
      exact ⟨spares, custody_setStopping custody flag, number⟩
    next =>
      rintro f index ⟨spares, custody, number⟩ -
      refine ⟨spares_cancel spares number index, custody_cancel custody index, ?_⟩
      rwa [(returned_cancel f index).id]
    next => exact fun f n holds => holds
  next =>
    rintro f index u stream reason host ⟨spares, custody, number⟩ taken refused
    have after := handed spares custody number taken
    obtain ⟨kept, left, -⟩ := handing_refused custody taken refused
    rw [refused] at after
    exact ⟨after, left, by rw [kept.id]; exact number⟩
  next =>
    rintro f index u stream host ⟨spares, custody, number⟩ taken accepted
    have after := handed spares custody number taken
    obtain ⟨kept, left, -⟩ := handing_accepted custody taken accepted
    rw [accepted] at after
    exact ⟨after, left, by rw [(kept_takeParked taken).1.id]; exact number⟩

theorem spares_start (spares : Spares i h₀ f.host) (sound : f.Sound roster)
    (number : f.stream.id / maxFrontends = i) : Spares i h₀ f.start.2.host :=
  ((startInvariant_spares i h₀ roster).start ⟨spares, sound.custody, number⟩).1

end Flow

end DvbReceiver
