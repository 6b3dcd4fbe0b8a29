import DvbReceiver.Proofs.Stream.Cleanness
import DvbReceiver.Proofs.Stream.Halting

set_option autoImplicit false

namespace DvbReceiver

namespace Event

def returned? (stream : Nat) : Event → Option Urb
  | .returned u => if u.key.stream = stream then some u else none
  | _ => none

def slice? (stream : Nat) : Event → Option Bytes
  | .delivered s data => if s = stream then some data else none
  | _ => none

def isRefusal (stream : Nat) : Event → Bool
  | .refused u => u.key.stream == stream
  | _ => false

def OfWork (stream : Nat) : Event → Prop
  | .submitted _ | .refused _ => True
  | .returned u => u.key.stream = stream
  | .delivered s _ => s = stream
  | _ => False

end Event

def returns (stream : Nat) (events : List Event) : List Urb :=
  (events.filterMap (Event.returned? stream)).reverse

/-- Those that did not end for good. -/
def completions (stream : Nat) (events : List Event) : List Urb :=
  (returns stream events).filter (!·.status.isTerminal)

def passed (stream : Nat) (events : List Event) : List Bytes :=
  (events.filterMap (Event.slice? stream)).reverse

def refusals (stream : Nat) (events : List Event) : Nat :=
  events.countP (·.isRefusal stream)

section Traces

variable (stream : Nat) (later earlier : List Event)

@[simp] theorem completions_nil : completions stream [] = [] := rfl

@[simp] theorem passed_nil : passed stream [] = [] := rfl

@[simp] theorem refusals_nil : refusals stream [] = 0 := rfl

@[simp] theorem completions_append :
    completions stream (later ++ earlier) =
      completions stream earlier ++ completions stream later := by
  simp [completions, returns]

@[simp] theorem passed_append :
    passed stream (later ++ earlier) = passed stream earlier ++ passed stream later := by
  simp [passed]

@[simp] theorem refusals_append :
    refusals stream (later ++ earlier) = refusals stream later + refusals stream earlier :=
  List.countP_append

variable {stream} {e : Event} {u : Urb}

theorem completions_handed (handed : e.handed? = some u) : completions stream [e] = [] := by
  cases e <;> first | rfl | cases handed

theorem passed_handed (handed : e.handed? = some u) : passed stream [e] = [] := by
  cases e <;> first | rfl | cases handed

theorem completions_returned (own : u.key.stream = stream) :
    completions stream [.returned u] = if u.status.isTerminal then [] else [u] := by
  cases final : u.status.isTerminal <;>
    simp [completions, returns, Event.returned?, own, final]

theorem completions_delivered (slices : List Bytes) :
    completions stream (slices.map (.delivered stream)).reverse = [] := by
  have none : (slices.map (Event.delivered stream)).filterMap (Event.returned? stream) = [] := by
    simp [List.filterMap_eq_nil_iff, Event.returned?]
  simp [completions, returns, List.filterMap_reverse, none]

theorem passed_delivered (slices : List Bytes) :
    passed stream (slices.map (.delivered stream)).reverse = slices := by
  have all : (slices.map (Event.delivered stream)).filterMap (Event.slice? stream) = slices := by
    simp [List.filterMap_map, Function.comp_def, Event.slice?]
  simp [passed, List.filterMap_reverse, all]

theorem refusals_delivered (slices : List Bytes) :
    refusals stream (slices.map (.delivered stream)).reverse = 0 := by
  simp [refusals, List.countP_eq_zero, Event.isRefusal]

end Traces

namespace StreamStats

def refuse (stats : StreamStats) (count : Nat) : StreamStats :=
  { stats with resubmitFailures := stats.resubmitFailures + count }

@[simp] theorem refuse_zero (stats : StreamStats) : stats.refuse 0 = stats := rfl

theorem refuse_refuse (stats : StreamStats) (first second : Nat) :
    (stats.refuse first).refuse second = stats.refuse (first + second) := by
  simp [refuse, Nat.add_assoc]

theorem foldl_add_refuse (urbs : List Urb) (stats : StreamStats) (count : Nat) :
    urbs.foldl add (stats.refuse count) = (urbs.foldl add stats).refuse count := by
  induction urbs generalizing stats with
  | nil => rfl
  | cons u rest ih => exact ih (stats.add u)

end StreamStats

theorem Host.submit_cases (h : Host) (u : Urb) :
    (∃ h', h.submit u = (none, h') ∧ h'.trace = .submitted u :: h.trace) ∨
    ∃ reason h', h.submit u = (some reason, h') ∧ h'.trace = .refused u :: h.trace := by
  unfold submit
  split
  next => exact .inl ⟨_, rfl, rfl⟩
  next => exact .inr ⟨_, _, rfl, rfl⟩

namespace Flow

variable {f f' f₁ f₂ f₃ : Flow} {roster : List UrbIdentity} {hand : List Urb}
  {events earlier later : List Event} {e : Event} {n m : Nat} {u : Urb}

/-- From `f` to `f'` came `events`, and the stream has accounted for each of them. Of its requests
that came back the bus did not take `refused` again. -/
structure Booked (f f' : Flow) (events : List Event) (refused : Nat) : Prop where
  trace : f'.host.trace = events ++ f.host.trace
  id : f'.stream.id = f.stream.id
  work : ∀ e ∈ events, e.OfWork f.stream.id
  passed : passed f.stream.id events = (completions f.stream.id events).flatMap Urb.slices
  slices : f'.slices = f.slices ++ DvbReceiver.passed f.stream.id events
  stats : f'.stream.stats =
    ((completions f.stream.id events).foldl StreamStats.add f.stream.stats).refuse refused

theorem Booked.trans (first : Booked f₁ f₂ earlier n) (second : Booked f₂ f₃ later m) :
    Booked f₁ f₃ (later ++ earlier) (n + m) := by
  obtain ⟨trace, id, work, passed, slices, stats⟩ := second
  rw [first.id] at work passed slices stats
  constructor
  next => rw [trace, first.trace, List.append_assoc]
  next => exact id.trans first.id
  next =>
    intro e there
    exact (List.mem_append.1 there).elim (work e) (first.work e)
  next => simp [passed, first.passed]
  next => simp [slices, first.slices]
  next =>
    rw [stats, first.stats, StreamStats.foldl_add_refuse, StreamStats.refuse_refuse,
      completions_append, List.foldl_append]

theorem booked_still (trace : f'.host.trace = f.host.trace) (id : f'.stream.id = f.stream.id)
    (slices : f'.slices = f.slices) (stats : f'.stream.stats = f.stream.stats) :
    Booked f f' [] 0 :=
  ⟨trace, id, by simp, rfl, by simpa using slices, stats⟩

theorem booked_handed (handed : e.handed? = some u) (trace : f'.host.trace = e :: f.host.trace)
    (id : f'.stream.id = f.stream.id) (slices : f'.slices = f.slices)
    (stats : f'.stream.stats = f.stream.stats.refuse n) : Booked f f' [e] n := by
  have nothing : DvbReceiver.passed f.stream.id [e] = [] := passed_handed handed
  have none : completions f.stream.id [e] = [] := completions_handed handed
  refine ⟨trace, id, fun e' there => ?_, ?_, ?_, ?_⟩
  · rw [List.mem_singleton.1 there]
    cases e <;> trivial
  · rw [nothing, none]
    rfl
  · rw [nothing, slices, List.append_nil]
  · rw [none, stats]
    rfl

theorem booked_submit (f : Flow) (u : Urb) :
    ∃ events, Booked f { f with host := (f.host.submit u).2 } events 0 := by
  obtain ⟨e, handed, trace⟩ := f.host.trace_submit u
  exact ⟨[e], booked_handed handed trace rfl rfl rfl⟩

theorem booked_terminal (own : u.key.stream = f.stream.id) (final : u.status.isTerminal = true) :
    Booked f { f with host := f.host.note (.returned u) } [.returned u] 0 := by
  have none := completions_returned own
  rw [if_pos final] at none
  refine ⟨rfl, rfl, ?_, by rw [none]; rfl, ?_, by rw [none]; rfl⟩
  · simpa [Event.OfWork] using own
  · exact (List.append_nil _).symm

theorem booked_deliver (own : u.key.stream = f.stream.id) (more : ¬ u.status.isTerminal = true) :
    Booked f (deliver { f with host := f.host.note (.returned u) } u)
      ((u.slices.map (.delivered f.stream.id)).reverse ++ [.returned u]) 0 := by
  have one := completions_returned own
  rw [if_neg more] at one
  have nothing : passed f.stream.id [.returned u] = [] := rfl
  constructor
  next => simp [deliver, passOn, Host.noteAll_eq, Host.note]
  next => rfl
  next =>
    simp only [List.mem_append, List.mem_reverse, List.mem_map, List.mem_singleton]
    rintro e (⟨data, -, rfl⟩ | rfl)
    · exact rfl
    · exact own
  next => simp [one, nothing, completions_delivered, passed_delivered]
  next => simp [nothing, passed_delivered, deliver, passOn]
  next => simp [one, completions_delivered, deliver, passOn]

theorem booked_requeue (own : u.key.stream = f.stream.id) :
    ∃ events, Booked f (f.requeue u).2 events (refusals f.stream.id events) ∧
      (f.stream.stopping = true → refusals f.stream.id events = 0) := by
  unfold requeue
  split
  next => exact ⟨[], booked_still rfl rfl rfl rfl, fun _ => rfl⟩
  next lowered =>
    have flag : ¬ f.stream.stopping = true := lowered
    obtain ⟨host, taken, trace⟩ | ⟨reason, host, refused, trace⟩ := f.host.submit_cases u
    next =>
      rw [taken]
      exact ⟨[.submitted u], booked_handed rfl trace rfl rfl rfl, fun raised => absurd raised flag⟩
    next =>
      rw [refused]
      have one : refusals f.stream.id [.refused u] = 1 := by
        simp [refusals, Event.isRefusal, own]
      refine ⟨[.refused u], ?_, fun raised => absurd raised flag⟩
      rw [one]
      exact booked_handed rfl trace rfl rfl rfl

theorem booked_advance {back : Return} (c : f.Custody roster (back.urb :: hand)) :
    ∃ events, Booked f (f.advance back).2 events (refusals f.stream.id events) ∧
      (f.stream.stopping = true → refusals f.stream.id events = 0) := by
  have own := c.key_hand.1
  cases back with
  | taken u =>
    -- A stream that has a request is prepared.
    have prepared : ¬ f.stream.lane.isNone = true := by
      simpa [Option.isNone_iff_eq_none, Option.isSome_iff_ne_none] using c.prepared
    simp only [advance, if_neg prepared]
    split
    next final => exact ⟨[.returned u], booked_terminal own final, fun _ => rfl⟩
    next more =>
      have none : refusals f.stream.id
          ((u.slices.map (.delivered f.stream.id)).reverse ++ [.returned u]) = 0 := by
        rw [refusals_append, refusals_delivered]
        rfl
      refine ⟨_, ?_, fun _ => none⟩
      rw [none]
      exact booked_deliver own more
  | delivered u =>
    have own : u.settled.key.stream = f.stream.id := by rw [u.key_settled]; exact own
    obtain ⟨events, booked, stopped⟩ := booked_requeue own
    refine ⟨events, ?_, stopped⟩
    simp only [advance]
    split
    next requeued =>
      rw [requeued] at booked
      exact booked
    next requeued =>
      rw [requeued] at booked
      exact booked
  | leaving u => exact ⟨[], booked_still rfl rfl rfl rfl, fun _ => rfl⟩

theorem booked_finish {back : Return} (c : f.Custody roster (back.urb :: hand)) :
    ∃ events refused, Booked f (f.finish back) events refused := by
  -- Step by step, the request being in hand until its last one.
  induction rank : back.rank using Nat.strongRecOn generalizing f back with
  | _ r ih =>
    obtain ⟨events, booked, -⟩ := booked_advance c
    have custody := custody_advance c
    obtain last | ⟨next, f', once, same, less⟩ := f.advance_cases back
    next =>
      rw [last] at booked
      exact ⟨events, _, booked⟩
    next =>
      rw [once] at booked custody
      obtain ⟨later, refused, rest⟩ := ih next.rank (by omega) custody rfl
      rw [same] at rest
      exact ⟨_, _, booked.trans rest⟩

theorem booked_complete (c : f.Custody roster (u :: hand)) :
    ∃ events refused, Booked f (f.complete u) events refused := by
  have taken : f.Custody roster ((Return.taken u).urb :: hand) := c
  exact booked_finish taken

theorem booked_prepare (f : Flow) (layout : Layout) : Booked f (f.prepare layout).2 [] 0 := by
  unfold prepare
  split
  next => exact booked_still rfl rfl rfl rfl
  next =>
    split
    next => exact booked_still rfl rfl rfl rfl
    next =>
      split
      next => exact booked_still rfl rfl rfl rfl
      next =>
        dsimp only
        split
        next => exact booked_still rfl rfl rfl rfl
        next => exact booked_still rfl rfl rfl rfl

theorem booked_free (f : Flow) : Booked f.stop f.release [] 0 := by
  unfold release
  dsimp only
  split
  next => exact booked_still rfl rfl rfl rfl
  next => exact booked_still rfl rfl rfl rfl

end Flow

namespace Traffic

open DvbReceiver.Flow (Booked booked_still)

variable {t t' : Traffic} {roster : List UrbIdentity}

def Move.isAdvance : Move → Bool
  | .advance _ => true
  | _ => false

theorem booked_administer (sound : t.Sound roster) :
    ∃ events, Booked t.flow t.administer.flow events 0 := by
  obtain ⟨f, admin, flight⟩ := t
  have still : Booked f f [] 0 := booked_still rfl rfl rfl rfl
  cases admin with
  | resting => exact ⟨[], still⟩
  | taking index =>
    simp only [administer]
    split
    next => exact ⟨[], still⟩
    next =>
      have rest := f.stream.takeParked_snd index
      split
      next => exact ⟨[], still⟩
      next taken =>
        rw [taken] at rest
        have id := congrArg Stream.id rest
        have stats := congrArg Stream.stats rest
        exact ⟨[], booked_still rfl id rfl stats⟩
  | handing index u =>
    obtain ⟨events, booked⟩ := f.booked_submit u
    simp only [administer]
    split
    next outcome =>
      rw [outcome] at booked
      exact ⟨events, booked⟩
    next outcome =>
      rw [outcome] at booked
      exact ⟨events, { booked with }⟩
  | refused index u reason => exact ⟨[], booked_still rfl rfl rfl rfl⟩
  | raising answer => exact ⟨[], booked_still rfl rfl rfl rfl⟩
  | cancelling todo answer =>
    cases todo with
    | nil => exact ⟨[], still⟩
    | cons index todo => exact ⟨[], booked_still rfl rfl rfl rfl⟩
  | returning back todo answer =>
    have custody : f.Custody roster (back.urb :: flight.map Return.urb) := sound.custody
    have stopping : f.stream.stopping = true := sound.phase.1.trans custody.prepared
    obtain ⟨events, booked, none⟩ := Flow.booked_advance custody
    -- With the flag raised nothing is queued again, so that nothing is refused.
    rw [none stopping] at booked
    refine ⟨events, ?_⟩
    simp only [administer]
    split
    next step =>
      rw [step] at booked
      exact booked
    next step =>
      rw [step] at booked
      exact booked
  | waiting answer =>
    simp only [administer]
    split
    next => exact ⟨[], booked_still rfl rfl rfl rfl⟩
    next => exact ⟨[], still⟩

/-- Refusals count only where a request comes back of itself. -/
theorem booked_move (sound : t.Sound roster) (m : Move) :
    ∃ events, Booked t.flow (t.move m).flow events
      (if m.isAdvance then refusals t.flow.stream.id events else 0) := by
  cases m with
  | start =>
    obtain ⟨f, admin, flight⟩ := t
    have still : Booked f f [] 0 := booked_still rfl rfl rfl rfl
    cases admin with
    | resting answer =>
      simp only [move]
      split
      next => exact ⟨[], still⟩
      next =>
        split
        next => exact ⟨[], still⟩
        next => exact ⟨[], booked_still rfl rfl rfl rfl⟩
    | _ => exact ⟨[], still⟩
  | stop =>
    obtain ⟨f, admin, flight⟩ := t
    cases admin <;> exact ⟨[], booked_still rfl rfl rfl rfl⟩
  | administer => exact booked_administer sound
  | expire =>
    obtain ⟨f, admin, flight⟩ := t
    cases admin <;> exact ⟨[], booked_still rfl rfl rfl rfl⟩
  | pop position fill =>
    simp only [move]
    split
    next => exact ⟨[], booked_still rfl rfl rfl rfl⟩
    next =>
      split
      next => exact ⟨[], booked_still rfl rfl rfl rfl⟩
      next => exact ⟨[], booked_still rfl rfl rfl rfl⟩
  | advance which =>
    simp only [move]
    split
    next => exact ⟨[], booked_still rfl rfl rfl rfl⟩
    next back there =>
      obtain ⟨events, booked, -⟩ := Flow.booked_advance (sound.custody_flight there)
      exact ⟨events, booked⟩
  | foreign u =>
    simp only [move]
    split
    next => exact ⟨[], booked_still rfl rfl rfl rfl⟩
    next => exact t.flow.booked_submit u

theorem booked_run (sound : t.Sound roster) (moves : List Move) :
    ∃ events refused, Booked t.flow (t.run moves).flow events refused := by
  induction moves generalizing t with
  | nil => exact ⟨[], 0, booked_still rfl rfl rfl rfl⟩
  | cons m rest ih =>
    obtain ⟨earlier, first⟩ := booked_move sound m
    obtain ⟨later, refused, second⟩ := ih (sound_move sound m)
    exact ⟨_, _, first.trans second⟩

theorem booked_alone {who : Move} (sound : t.Sound roster) (alone : Alone who t t') :
    ∃ events refused, Booked t.flow t'.flow events refused := by
  obtain ⟨n, rfl⟩ := alone
  exact booked_run sound _

end Traffic

namespace Flow

open Traffic (alone_start alone_stop booked_alone booked_move sound_move sound_resting)

variable {f : Flow} {roster : List UrbIdentity}

theorem booked_stop (sound : f.Sound roster) :
    ∃ events refused, Booked f f.stop events refused :=
  booked_alone (sound_move (sound_resting sound (.ok ())) .stop) (alone_stop sound (.ok ()))

theorem booked_start (sound : f.Sound roster) :
    ∃ events refused, Booked f f.start.2 events refused := by
  have resting := sound_resting sound (.ok ())
  obtain ⟨earlier, begun⟩ := booked_move resting .start
  obtain ⟨later, refused, rest⟩ :=
    booked_alone (sound_move resting .start) (alone_start sound (.ok ()))
  exact ⟨_, _, begun.trans rest⟩

theorem booked_release (sound : f.Sound roster) :
    ∃ events refused, Booked f f.release events refused := by
  obtain ⟨events, refused, booked⟩ := booked_stop sound
  exact ⟨_, _, booked.trans (booked_free f)⟩

end Flow

end DvbReceiver
