import DvbReceiver.Proofs.Stream.Moves
import Mathlib.Logic.Function.Basic

set_option autoImplicit false

namespace DvbReceiver

def UrbKey.adapter (key : UrbKey) : Nat :=
  key.stream / maxFrontends

/-- Which adapters' streams are switched on, the latest event first. Switching one off counts even
when it fails. -/
def streamingAfter : List Event → Nat → Bool
  | [] => fun _ => false
  | .called (.streaming adapter on) outcome :: earlier =>
    if on && !outcome.toExcept.isOk then streamingAfter earlier
    else Function.update (streamingAfter earlier) adapter on
  | _ :: earlier => streamingAfter earlier

def queuedAfter : List Event → List UrbKey
  | [] => []
  | .submitted u :: earlier => u.key :: queuedAfter earlier
  | .returned u :: earlier => (queuedAfter earlier).erase u.key
  | _ :: earlier => queuedAfter earlier

def Event.Permitted (on : Nat → Bool) : Event → Prop
  | .called (.streaming adapter switch) _ => on adapter = !switch
  | .called (.pidFilter adapter ..) _ => on adapter = true
  | .called (.pidFilterControl adapter _) _ => on adapter = true
  | _ => True

/-- Each event was permitted when it came, and at no moment was a request of an adapter with the bus
whose stream was not switched on. -/
def Bracketed : List Event → Prop
  | [] => True
  | e :: earlier =>
    Bracketed earlier ∧ e.Permitted (streamingAfter earlier) ∧
      ∀ key ∈ queuedAfter (e :: earlier), streamingAfter (e :: earlier) key.adapter = true

def Event.isPlain : Event → Bool
  | .submitted _ | .returned _ => false
  | .called (.streaming ..) _ => false
  | .called (.pidFilter ..) _ | .called (.pidFilterControl ..) _ => false
  | _ => true

variable {events : List Event} {e : Event} {u : Urb} {i : Nat}

theorem Bracketed.queued (bracketed : Bracketed events) :
    ∀ key ∈ queuedAfter events, streamingAfter events key.adapter = true := by
  cases events with
  | nil => simp [queuedAfter]
  | cons e earlier => exact bracketed.2.2

theorem Event.after_plain (plain : e.isPlain = true) (events : List Event) :
    streamingAfter (e :: events) = streamingAfter events ∧
      queuedAfter (e :: events) = queuedAfter events ∧ e.Permitted (streamingAfter events) := by
  cases e with
  | called hook outcome =>
    cases hook with
    | streaming | pidFilter | pidFilterControl => cases plain
    | _ => exact ⟨rfl, rfl, trivial⟩
  | submitted | returned => cases plain
  | _ => exact ⟨rfl, rfl, trivial⟩

theorem Bracketed.plain (bracketed : Bracketed events) (plain : e.isPlain = true) :
    Bracketed (e :: events) := by
  obtain ⟨streaming, queued, permitted⟩ := Event.after_plain plain events
  refine ⟨bracketed, permitted, ?_⟩
  rw [streaming, queued]
  exact bracketed.queued

theorem Bracketed.submitted (bracketed : Bracketed events)
    (on : streamingAfter events u.key.adapter = true) : Bracketed (.submitted u :: events) := by
  refine ⟨bracketed, trivial, fun key queued => ?_⟩
  obtain rfl | before := List.mem_cons.1 queued
  next => exact on
  next => exact bracketed.queued key before

theorem Bracketed.returned (bracketed : Bracketed events) (u : Urb) :
    Bracketed (.returned u :: events) :=
  ⟨bracketed, trivial, fun key queued => bracketed.queued key (List.mem_of_mem_erase queued)⟩

theorem Bracketed.filter (bracketed : Bracketed events) (on : streamingAfter events i = true)
    (index pid : Nat) (set : Bool) (outcome : HookOutcome) :
    Bracketed (.called (.pidFilter i index pid set) outcome :: events) :=
  ⟨bracketed, on, bracketed.queued⟩

theorem Bracketed.filterControl (bracketed : Bracketed events)
    (on : streamingAfter events i = true) (enabled : Bool) (outcome : HookOutcome) :
    Bracketed (.called (.pidFilterControl i enabled) outcome :: events) :=
  ⟨bracketed, on, bracketed.queued⟩

theorem Bracketed.switchOn (bracketed : Bracketed events) (off : streamingAfter events i = false)
    (outcome : HookOutcome) :
    Bracketed (.called (.streaming i true) outcome :: events) ∧
      streamingAfter (.called (.streaming i true) outcome :: events) =
        Function.update (streamingAfter events) i outcome.toExcept.isOk := by
  have after : streamingAfter (.called (.streaming i true) outcome :: events) =
      Function.update (streamingAfter events) i outcome.toExcept.isOk := by
    show (if (true && !outcome.toExcept.isOk) = true then streamingAfter events
      else Function.update (streamingAfter events) i true) = _
    cases outcome.toExcept.isOk with
    | true => rfl
    | false => exact (Function.update_eq_self_iff.2 off.symm).symm
  refine ⟨⟨bracketed, off, fun key queued => ?_⟩, after⟩
  have on := bracketed.queued key queued
  -- What is queued belongs to the adapters that were streaming already.
  have other : key.adapter ≠ i := fun same => by simp [same, off] at on
  rw [after, Function.update_of_ne other]
  exact on

theorem Bracketed.switchOff (bracketed : Bracketed events) (on : streamingAfter events i = true)
    (idle : ∀ key ∈ queuedAfter events, key.adapter ≠ i) (outcome : HookOutcome) :
    Bracketed (.called (.streaming i false) outcome :: events) ∧
      streamingAfter (.called (.streaming i false) outcome :: events) =
        Function.update (streamingAfter events) i false := by
  refine ⟨⟨bracketed, on, fun key queued => ?_⟩, rfl⟩
  show Function.update (streamingAfter events) i false key.adapter = true
  rw [Function.update_of_ne (idle key queued)]
  exact bracketed.queued key queued

/-- The requests of a receiver with the bus are those of which its history says so. -/
def Reflects (events : List Event) (queue : List Urb) : Prop :=
  ∀ key : UrbKey, key.adapter < maxAdapters →
    (queuedAfter events).count key = queue.countP (·.key == key)

variable {queue queue' : List Urb}

theorem Reflects.submitted (reflects : Reflects events queue) (u : Urb) :
    Reflects (.submitted u :: events) (queue ++ [u]) := by
  intro key known
  rw [List.countP_append, ← reflects key known, List.countP_singleton]
  exact List.count_cons

theorem Reflects.returned (reflects : Reflects events queue) (removed : Removed queue u queue')
    {v : Urb} (same : v.key = u.key) : Reflects (.returned v :: events) queue' := by
  obtain ⟨before, after, rfl, rfl⟩ := removed
  intro key known
  have count := reflects key known
  rw [List.countP_append, List.countP_cons] at count
  show ((queuedAfter events).erase v.key).count key = _
  rw [List.count_erase, count, same, List.countP_append]
  omega

theorem Reflects.idle (reflects : Reflects events queue) (known : i < maxAdapters)
    (idle : ∀ u ∈ queue, u.key.adapter ≠ i) : ∀ key ∈ queuedAfter events, key.adapter ≠ i := by
  intro key queued same
  have positive := List.count_pos_iff.2 queued
  rw [reflects key (same ▸ known)] at positive
  obtain ⟨u, there, matching⟩ := List.countP_pos_iff.1 positive
  exact idle u there (by rw [eq_of_beq matching, same])

namespace Host

variable {h₀ h : Host} {on : Nat → Bool}

/-- What has happened since `h₀` kept to the brackets, and has left on the streams that are `on`. -/
def Bracket (h₀ h : Host) (on : Nat → Bool) : Prop :=
  ∃ events, h.trace = events ++ h₀.trace ∧ Bracketed events ∧ streamingAfter events = on ∧
    Reflects events h.bus.queue

theorem Bracket.start (h : Host) (unused : ∀ u ∈ h.bus.queue, maxAdapters ≤ u.key.adapter) :
    Bracket h h fun _ => false := by
  refine ⟨[], rfl, trivial, rfl, fun key known => ?_⟩
  refine (List.countP_eq_zero.2 fun u queued matching => ?_).symm
  have foreign := unused u queued
  rw [eq_of_beq matching] at foreign
  omega

theorem Bracket.of_eq {h' : Host} (bracket : Bracket h₀ h on) (trace : h'.trace = h.trace)
    (queue : h'.bus.queue = h.bus.queue) : Bracket h₀ h' on := by
  unfold Bracket
  rw [trace, queue]
  exact bracket

theorem Bracket.note (bracket : Bracket h₀ h on) {e : Event} (plain : e.isPlain = true) :
    Bracket h₀ (h.note e) on := by
  obtain ⟨events, trace, bracketed, rfl, reflects⟩ := bracket
  obtain ⟨streaming, queued, -⟩ := Event.after_plain plain events
  refine ⟨e :: events, congrArg (e :: ·) trace, bracketed.plain plain, streaming, ?_⟩
  unfold Reflects
  rw [queued]
  exact reflects

theorem Bracket.noteAll (bracket : Bracket h₀ h on) {events : List Event}
    (plain : ∀ e ∈ events, e.isPlain = true) : Bracket h₀ (h.noteAll events) on := by
  induction events generalizing h with
  | nil => exact bracket
  | cons e rest ih =>
    exact ih (bracket.note (plain e List.mem_cons_self)) fun e' there =>
      plain e' (List.mem_cons_of_mem e there)

theorem Bracket.call (bracket : Bracket h₀ h on) (hook : Hook)
    (plain : ∀ outcome, (Event.called hook outcome).isPlain = true) :
    Bracket h₀ (h.call hook).2 on :=
  (bracket.note (plain (h.driver.answer h.calls hook))).of_eq rfl rfl

theorem Bracket.perform (bracket : Bracket h₀ h on) (hook : Hook)
    (plain : ∀ outcome, (Event.called hook outcome).isPlain = true) :
    Bracket h₀ (h.perform hook).2 on :=
  bracket.call hook plain

theorem Bracket.submit (bracket : Bracket h₀ h on) {u : Urb} (streaming : on u.key.adapter = true) :
    Bracket h₀ (h.submit u).2 on := by
  have queue := Host.queue_submit h u
  unfold Host.submit at queue ⊢
  split
  next bus taken =>
    rw [taken] at queue
    obtain ⟨events, trace, bracketed, rfl, reflects⟩ := bracket
    refine ⟨.submitted u :: events, congrArg (_ :: ·) trace, bracketed.submitted streaming, rfl, ?_⟩
    rw [queue]
    exact reflects.submitted u
  next reason bus refused =>
    rw [refused] at queue
    have same : Bracket h₀ { h with bus } on := bracket.of_eq rfl queue
    exact same.note rfl

theorem Bracket.returned (bracket : Bracket h₀ h on) {h' : Host} {u v : Urb}
    (trace : h'.trace = h.trace) (removed : Removed h.bus.queue u h'.bus.queue)
    (same : v.key = u.key) : Bracket h₀ (h'.note (.returned v)) on := by
  obtain ⟨events, before, bracketed, rfl, reflects⟩ := bracket
  refine ⟨.returned v :: events, ?_, bracketed.returned v, rfl, reflects.returned removed same⟩
  exact congrArg (_ :: ·) (trace.trans before)

theorem Bracket.removed_foreign (bracket : Bracket h₀ h on) {h' : Host} {u : Urb}
    (trace : h'.trace = h.trace) (removed : Removed h.bus.queue u h'.bus.queue)
    (foreign : maxAdapters ≤ u.key.adapter) : Bracket h₀ h' on := by
  obtain ⟨events, before, bracketed, rfl, reflects⟩ := bracket
  refine ⟨events, trace.trans before, bracketed, rfl, fun key known => ?_⟩
  obtain ⟨front, back, queue, queue'⟩ := removed
  have different : ¬ u.key = key := fun same => by
    rw [same] at foreign
    omega
  rw [reflects key known, queue, queue']
  simp [List.countP_append, different]

theorem Bracket.filter (bracket : Bracket h₀ h on) {i : Nat} (streaming : on i = true)
    (index pid : Nat) (set : Bool) : Bracket h₀ (h.perform (.pidFilter i index pid set)).2 on := by
  obtain ⟨events, trace, bracketed, rfl, reflects⟩ := bracket
  exact ⟨_ :: events, congrArg (_ :: ·) trace, bracketed.filter streaming index pid set _, rfl,
    reflects⟩

theorem Bracket.filterControl (bracket : Bracket h₀ h on) {i : Nat} (streaming : on i = true)
    (enabled : Bool) : Bracket h₀ (h.perform (.pidFilterControl i enabled)).2 on := by
  obtain ⟨events, trace, bracketed, rfl, reflects⟩ := bracket
  exact ⟨_ :: events, congrArg (_ :: ·) trace, bracketed.filterControl streaming enabled _, rfl,
    reflects⟩

theorem Bracket.switchOn (bracket : Bracket h₀ h on) {i : Nat} (off : on i = false) :
    Bracket h₀ (h.perform (.streaming i true)).2
      (Function.update on i (h.perform (.streaming i true)).1.isOk) := by
  obtain ⟨events, trace, bracketed, rfl, reflects⟩ := bracket
  obtain ⟨again, streaming⟩ := bracketed.switchOn off (h.driver.answer h.calls (.streaming i true))
  exact ⟨_ :: events, congrArg (_ :: ·) trace, again, streaming, reflects⟩

theorem Bracket.switchOff (bracket : Bracket h₀ h on) {i : Nat} (known : i < maxAdapters)
    (streaming : on i = true) (idle : ∀ u ∈ h.bus.queue, u.key.adapter ≠ i) :
    Bracket h₀ (h.perform (.streaming i false)).2 (Function.update on i false) := by
  obtain ⟨events, trace, bracketed, rfl, reflects⟩ := bracket
  obtain ⟨again, after⟩ := bracketed.switchOff streaming (reflects.idle known idle)
    (h.driver.answer h.calls (.streaming i false))
  exact ⟨_ :: events, congrArg (_ :: ·) trace, again, after, reflects⟩

end Host

end DvbReceiver
