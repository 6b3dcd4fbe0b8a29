import DvbReceiver.Proofs.Stream.Invariant
import DvbReceiver.Proofs.Stream.Ownership

set_option autoImplicit false

namespace DvbReceiver

/-- Nothing of an earlier transfer is left on a request. -/
def Urb.IsClean (u : Urb) : Prop :=
  u.actual = 0 ∧ ∀ frame ∈ u.frames, frame.actual = 0 ∧ frame.status = .ok

instance (u : Urb) : Decidable u.IsClean :=
  inferInstanceAs (Decidable (_ ∧ _))

theorem Urb.isClean_settled (u : Urb) : u.settled.IsClean := by
  refine ⟨rfl, fun frame present => ?_⟩
  cases transfer : u.transfer with
  | bulk => simp [settled, frames, withFrames, transfer] at present
  | isoc =>
    simp only [settled, frames, withFrames, transfer, List.mem_map] at present
    obtain ⟨before, -, rfl⟩ := present
    exact ⟨rfl, rfl⟩

theorem Urb.isClean_ofLayout (key : UrbKey) (layout : Layout) (buffer : Buffer) :
    (ofLayout key layout buffer).IsClean := by
  refine ⟨rfl, fun frame present => ?_⟩
  cases shape : layout.shape with
  | bulk => simp [ofLayout, frames, shape] at present
  | isoc =>
    simp only [ofLayout, frames, shape, framesOf, List.mem_map] at present
    obtain ⟨i, -, rfl⟩ := present
    exact ⟨rfl, rfl⟩

def Fill.isEmpty (fill : Fill) : Bool :=
  fill.data.isNone && fill.actual.getD 0 == 0 &&
    fill.frames.all fun frame => frame.data.isNone && frame.actual.getD 0 == 0

theorem FrameFill.actual_applyAll (fills : List FrameFill) (bytes : Bytes) (frames : List Frame)
    (empty : ∀ fill ∈ fills, fill.data = none ∧ fill.actual.getD 0 = 0)
    (clean : ∀ frame ∈ frames, frame.actual = 0) :
    ∀ frame ∈ (applyAll fills bytes frames).2, frame.actual = 0 := by
  induction fills generalizing bytes frames with
  | nil => exact clean
  | cons fill fills ih =>
    cases frames with
    | nil => exact clean
    | cons frame frames =>
      simp only [List.forall_mem_cons] at empty clean
      obtain ⟨⟨noData, noActual⟩, others⟩ := empty
      intro other present
      obtain rfl | later := List.mem_cons.1 present
      next =>
        simp only [noData, clean.1]
        simpa using noActual
      next => exact ih _ _ others clean.2 other later

theorem Urb.slices_fill_of_isClean {u : Urb} (clean : u.IsClean) {fill : Fill}
    (empty : fill.isEmpty = true) : (u.fill fill).slices = [] := by
  simp [Fill.isEmpty] at empty
  obtain ⟨⟨noData, noActual⟩, noFrames⟩ := empty
  cases transfer : u.transfer with
  | bulk => simp [Urb.fill, slices, withFrames, transfer, noData, noActual]
  | isoc interval asap frames =>
    have still := FrameFill.actual_applyAll fill.frames u.buffer.bytes u.frames noFrames
      fun frame present => (clean.2 frame present).1
    have nothing : ∀ frame ∈ (FrameFill.applyAll fill.frames u.buffer.bytes u.frames).2,
        ∀ bytes, Frame.slice bytes frame = [] := by
      intro frame present bytes
      have kept := word_le frame.offset
      have none : min (word frame.offset) bytes.length - frame.offset = 0 := by omega
      simp [Frame.slice, Frame.stop, Bytes.slice, still frame present, none]
    simp [Urb.fill, slices, withFrames, transfer, noData]
    intro frame present
    exact nothing frame present _

def Event.handed? : Event → Option Urb
  | .submitted u | .refused u => some u
  | _ => none

def lastReturn (key : UrbKey) : List Event → Option Urb
  | [] => none
  | .returned u :: earlier => if u.key = key then some u else lastReturn key earlier
  | _ :: earlier => lastReturn key earlier

/-- Clean, or left by a last transfer that ended for good. -/
def Urb.Fit (events : List Event) (u : Urb) : Prop :=
  u.IsClean ∨ u.status.isTerminal = true ∧ lastReturn u.key events = some u

def Handed (stream : Nat) : List Event → Prop
  | [] => True
  | e :: earlier =>
    Handed stream earlier ∧ ∀ u, e.handed? = some u → u.key.stream = stream → u.Fit earlier

variable {events : List Event} {e : Event} {u v : Urb}

theorem Urb.Fit.cons (fit : u.Fit events) (other : ∀ v, e = .returned v → v.key ≠ u.key) :
    u.Fit (e :: events) := by
  obtain clean | ⟨terminal, last⟩ := fit
  next => exact .inl clean
  next =>
    refine .inr ⟨terminal, ?_⟩
    cases e with
    | returned v => simpa [lastReturn, other v rfl] using last
    | _ => exact last

theorem Urb.fit_returned (terminal : u.status.isTerminal = true) :
    u.Fit (.returned u :: events) :=
  .inr ⟨terminal, by simp [lastReturn]⟩

theorem Host.trace_submit (h : Host) (u : Urb) :
    ∃ e, e.handed? = some u ∧ (h.submit u).2.trace = e :: h.trace := by
  unfold submit
  split
  next => exact ⟨.submitted u, rfl, rfl⟩
  next => exact ⟨.refused u, rfl, rfl⟩

theorem Custody.key_ne_parked {stream : Nat} {roster : List UrbIdentity} {queue hand : List Urb}
    {parked : List (Option Urb)} (c : Custody stream roster queue (u :: hand) parked)
    (present : some v ∈ parked) : u.key ≠ v.key := by
  intro same
  have separate := (List.nodup_cons.1 c.keys_nodup).1
  exact separate (List.mem_map.2 ⟨v, by simp [present], same.symm⟩)

namespace Flow

variable {i : Nat} {before : List Event} {f f' : Flow} {roster : List UrbIdentity}
  {hand hand' : List Urb}

/-- Since `before` all was handed over fit, and what is in the hand or parked is fit to be. -/
def Tidy (i : Nat) (before : List Event) (f : Flow) (hand : List Urb) : Prop :=
  f.stream.id = i ∧ ∃ events, f.host.trace = events ++ before ∧ Handed i events ∧
    ∀ u, u ∈ hand ∨ some u ∈ f.stream.parked → u.Fit events

namespace Tidy

theorem of_trace (tidy : Tidy i before f hand) (trace : f'.host.trace = f.host.trace)
    (id : f'.stream.id = f.stream.id)
    (held : ∀ u, u ∈ hand' ∨ some u ∈ f'.stream.parked →
      u.IsClean ∨ u ∈ hand ∨ some u ∈ f.stream.parked) : Tidy i before f' hand' := by
  obtain ⟨own, events, history, handed, fit⟩ := tidy
  refine ⟨id.trans own, events, trace.trans history, handed, fun u there => ?_⟩
  obtain clean | already := held u there
  next => exact .inl clean
  next => exact fit u already

theorem of_parked (tidy : Tidy i before f hand) (trace : f'.host.trace = f.host.trace)
    (id : f'.stream.id = f.stream.id) (parked : f'.stream.parked = f.stream.parked) :
    Tidy i before f' hand :=
  tidy.of_trace trace id fun u there => .inr (by rwa [parked] at there)

theorem drop (tidy : Tidy i before f hand) : Tidy i before f [] :=
  tidy.of_trace rfl rfl fun _ there => .inr (.inr (by simpa using there))

theorem park (tidy : Tidy i before f hand) (fit : u.IsClean ∨ u ∈ hand) :
    Tidy i before (f.park u) [] := by
  refine tidy.of_trace rfl rfl fun v there => ?_
  simp only [Flow.park, Stream.parked_park, List.not_mem_nil, false_or] at there
  obtain already | here := List.mem_or_eq_of_mem_set there
  next => exact .inr (.inr already)
  next =>
    cases here
    exact fit.imp_right .inl

theorem note (tidy : Tidy i before f hand)
    (handed : ∀ u, e.handed? = some u → u.key.stream = f.stream.id → u.IsClean ∨ u ∈ hand)
    (other : ∀ v, e = .returned v → ∀ u, u ∈ hand ∨ some u ∈ f.stream.parked → v.key ≠ u.key)
    (trace : f'.host.trace = e :: f.host.trace) (stream : f'.stream = f.stream) :
    Tidy i before f' hand := by
  obtain ⟨own, events, history, earlier, fit⟩ := tidy
  refine ⟨by rw [stream, own], e :: events, by rw [trace, history]; rfl, ?_⟩
  rw [stream]
  refine ⟨⟨earlier, fun u handing mine => ?_⟩, fun u there => ?_⟩
  next =>
    obtain clean | held := handed u handing (mine.trans own.symm)
    next => exact .inl clean
    next => exact fit u (.inl held)
  next => exact (fit u there).cons fun v back => other v back u there

theorem submit (tidy : Tidy i before f hand)
    (fit : u.key.stream = f.stream.id → u.IsClean ∨ u ∈ hand) :
    Tidy i before { f with host := (f.host.submit u).2 } hand := by
  obtain ⟨e, handing, trace⟩ := f.host.trace_submit u
  refine tidy.note (e := e) (fun v here own => ?_) (fun v back => ?_) trace rfl
  next =>
    obtain rfl : u = v := Option.some.inj (handing.symm.trans here)
    exact fit own
  next =>
    rw [back] at handing
    cases handing

theorem deliver (tidy : Tidy i before f hand) (u : Urb) : Tidy i before (f.deliver u) hand := by
  have noted (slices : List Bytes) : Tidy i before
      { f with host := f.host.noteAll (slices.map (.delivered f.stream.id)) } hand := by
    induction slices generalizing f with
    | nil => exact tidy
    | cons data rest ih =>
      have first : Tidy i before { f with host := f.host.note (.delivered f.stream.id data) }
          hand :=
        tidy.note (by simp [Event.handed?]) (by simp) rfl rfl
      exact ih first
  exact (noted u.slices).of_parked rfl rfl rfl

theorem requeue (tidy : Tidy i before f []) (clean : u.IsClean) :
    Tidy i before (f.requeue u).2 [] := by
  have submitted := tidy.submit fun _ => .inl clean
  obtain ⟨-, same⟩ | ⟨-, -, same, -⟩ | ⟨-, -, host, -, stats, stream⟩ := requeue_cases f u
  next => rwa [same]
  next => rwa [same]
  next =>
    exact submitted.of_parked (congrArg Host.trace host) (by rw [stream]) (by rw [stream]; rfl)

theorem returned (tidy : Tidy i before f []) (c : f.Custody roster [u]) :
    Tidy i before { f with host := f.host.note (.returned u) }
      (if u.status.isTerminal then [u] else []) := by
  obtain ⟨own, events, history, earlier, fit⟩ := tidy
  refine ⟨own, .returned u :: events, congrArg _ history, ⟨earlier, by simp [Event.handed?]⟩, ?_⟩
  intro v there
  cases there with
  | inl here =>
    split at here
    next ended =>
      obtain rfl := List.mem_singleton.1 here
      exact Urb.fit_returned ended
    next => cases here
  | inr parked =>
    refine (fit v (.inr parked)).cons fun w back => ?_
    cases back
    exact c.key_ne_parked parked

end Tidy

theorem requeue_left (left : (f.requeue u).1 = some v) : v = u := by
  obtain ⟨-, same⟩ | ⟨-, none, -⟩ | ⟨-, some, -⟩ := requeue_cases f u
  next =>
    rw [same] at left
    exact (Option.some.inj left).symm
  next => simp [none] at left
  next =>
    rw [some] at left
    exact (Option.some.inj left).symm

theorem tidy_complete (tidy : Tidy i before f []) (c : f.Custody roster [u]) :
    Tidy i before (f.complete u) [] := by
  have returned := tidy.returned c
  unfold complete
  dsimp only
  split
  next => exact returned.drop
  next =>
    split
    next ended =>
      rw [if_pos ended] at returned
      exact returned.park (.inr List.mem_cons_self)
    next =>
      have requeued := (returned.drop.deliver u).requeue u.isClean_settled
      split
      next same =>
        rw [same] at requeued
        exact requeued
      next left _ same =>
        obtain rfl := requeue_left (congrArg Prod.fst same)
        rw [same] at requeued
        exact requeued.park (.inl u.isClean_settled)

theorem tidy_cancel (tidy : Tidy i before f []) (c : f.Custody roster []) (index : Nat) :
    Tidy i before (f.cancel index) [] := by
  obtain ⟨host, -, cancelled, same, -⟩ | ⟨u, fill, host, key, cancelled, completed, removed⟩ :=
    cancel_cases f index
  next =>
    have trace : host.trace = f.host.trace := (congrArg (·.2.trace) cancelled).symm
    rw [same]
    exact tidy.of_parked trace rfl rfl
  next =>
    have trace : host.trace = f.host.trace := (congrArg (·.2.trace) cancelled).symm
    have unqueued := c.unqueue (removed.ofStream_perm (by rw [key]))
    rw [completed]
    exact tidy_complete (tidy.of_parked trace rfl rfl) (unqueued.rewrite (u.identity_fill fill))

theorem tidy_takeParked {index : Nat} {stream : Stream} (tidy : Tidy i before f [])
    (taken : f.stream.takeParked index = (some u, stream)) :
    Tidy i before { f with stream } [u] := by
  have present : f.stream.parked[index]? = some (some u) := Stream.takeParked_some (by rw [taken])
  have parked := f.stream.parked_takeParked index
  rw [taken] at parked
  refine tidy.of_trace rfl (kept_takeParked taken).1.id fun v there => .inr (.inr ?_)
  cases there with
  | inl here =>
    obtain rfl := List.mem_singleton.1 here
    exact List.mem_of_getElem? present
  | inr still =>
    rw [parked] at still
    obtain before | impossible := List.mem_or_eq_of_mem_set still
    next => exact before
    next => cases impossible

theorem startInvariant_tidy (i : Nat) (before : List Event) (roster : List UrbIdentity) :
    StartInvariant fun f => Tidy i before f [] ∧ f.Custody roster [] where
  flag := by
    rintro f on ⟨tidy, custody⟩
    exact ⟨tidy.of_parked rfl rfl (Stream.parked_setStopping ..), custody_setStopping custody on⟩
  cancel := by
    rintro f index ⟨tidy, custody⟩ -
    exact ⟨tidy_cancel tidy custody index, custody_cancel custody index⟩
  submitted := by
    rintro f n ⟨tidy, custody⟩
    exact ⟨tidy.of_parked rfl rfl rfl, custody⟩
  refused := by
    rintro f _ u _ _ _ ⟨tidy, custody⟩ taken refused
    have handed := (tidy_takeParked tidy taken).submit (u := u) fun _ => .inr List.mem_cons_self
    rw [refused] at handed
    exact ⟨handed.park (.inr List.mem_cons_self), (handing_refused custody taken refused).2.1⟩
  accepted := by
    rintro f _ u _ _ ⟨tidy, custody⟩ taken accepted
    have handed := (tidy_takeParked tidy taken).submit (u := u) fun _ => .inr List.mem_cons_self
    rw [accepted] at handed
    exact ⟨handed.drop, (handing_accepted custody taken accepted).2.1⟩

theorem tidy_stop (tidy : Tidy i before f []) (c : f.Custody roster []) :
    Tidy i before f.stop [] :=
  ((startInvariant_tidy i before roster).stop ⟨tidy, c⟩).1

theorem tidy_start (tidy : Tidy i before f []) (c : f.Custody roster []) :
    Tidy i before f.start.2 [] :=
  ((startInvariant_tidy i before roster).start ⟨tidy, c⟩).1

theorem tidy_prepare (tidy : Tidy i before f []) (layout : Layout) :
    Tidy i before (f.prepare layout).2 [] := by
  unfold prepare
  split
  next => exact tidy
  next =>
    split
    next => exact tidy
    next =>
      split
      next => exact tidy
      next =>
        dsimp only
        split
        next => exact tidy.of_parked rfl rfl rfl
        next =>
          refine tidy.of_trace rfl rfl fun u there => .inl ?_
          simp [Stream.parked] at there
          obtain ⟨buffer, index, -, rfl⟩ := there
          exact Urb.isClean_ofLayout ..

theorem tidy_release (tidy : Tidy i before f []) (c : f.Custody roster []) :
    Tidy i before f.release [] := by
  have stopped := tidy_stop tidy c
  unfold release
  dsimp only
  split
  next => exact stopped.of_parked rfl rfl rfl
  next => exact stopped.of_trace rfl rfl fun _ there => by simp [Stream.parked] at there

theorem tidy_act (tidy : Tidy i before f []) (sound : f.Sound roster) (step : Act) :
    Tidy i before (f.act step) [] := by
  cases step with
  | prepare layout => exact tidy_prepare tidy layout
  | start => exact tidy_start tidy sound.custody
  | stop => exact tidy_stop tidy sound.custody
  | release => exact tidy_release tidy sound.custody
  | complete position fill =>
    simp only [act]
    split
    next => exact tidy
    next u there =>
      have removed := removed_eraseIdx there
      have unqueued : Tidy i before { f with host := { f.host with bus :=
          { f.host.bus with queue := f.host.bus.queue.eraseIdx position } } } [] :=
        tidy.of_parked rfl rfl rfl
      split
      next own =>
        have custody := sound.custody.unqueue (removed.ofStream_perm own)
        exact tidy_complete unqueued (custody.rewrite (u.identity_fill fill))
      next => exact unqueued
  | foreign u =>
    simp only [act]
    split
    next => exact tidy
    next foreign => exact tidy.submit fun own => absurd own foreign

theorem tidy_run (tidy : Tidy i before f []) (sound : f.Sound roster) (acts : List Act) :
    Tidy i before (f.run acts) [] := by
  induction acts generalizing f roster with
  | nil => exact tidy
  | cons step rest ih =>
    obtain ⟨between, after⟩ := sound_act sound step
    exact ih (tidy_act tidy sound step) after

/-- A request reaches the bus clean, unless its last transfer ended for good: then it gets there as
it came back. -/
theorem handed_run (host : Host) (stream : Nat) (sink : Option String) (acts : List Act)
    (unused : ∀ u ∈ host.bus.queue, u.key.stream ≠ stream) :
    (∃ events, (run { host, stream := { id := stream, sink } } acts).host.trace =
        events ++ host.trace ∧ Handed stream events) ∧
      ∀ (u : Urb) (fill : Fill), u.IsClean → fill.isEmpty = true → (u.fill fill).slices = [] := by
  refine ⟨?_, fun u fill clean empty => u.slices_fill_of_isClean clean empty⟩
  have fresh : Tidy stream host.trace { host, stream := { id := stream, sink } } [] :=
    ⟨rfl, [], rfl, trivial, by simp [Stream.parked]⟩
  obtain ⟨-, events, trace, handed, -⟩ := tidy_run fresh (sound_fresh sink unused) acts
  exact ⟨events, trace, handed⟩

theorem handed_run_isoc :
    let clean := Urb.ofLayout ⟨1, 0⟩ ⟨2, 0x81, .isoc 2 4 1⟩ ⟨0, List.replicate 8 0⟩
    (∀ u ∈ (Bench.bareHost (Bench.newBus .high)).bus.queue, u.key.stream ≠ 1) ∧
      clean.IsClean ∧ Fill.isEmpty (.result .ok 0) = true ∧
      Handed 1 (run
        { host := Bench.bareHost (Bench.newBus .high), stream := { id := 1, sink := some "demux" } }
        [.prepare ⟨2, 0x81, .isoc 2 4 1⟩, .start,
          .complete 0 { frames := [{ data := some [7] }] }]).host.trace ∧
      (clean.fill (.result .ok 0)).slices = [] := by
  intro clean
  have unused : ∀ u ∈ (Bench.bareHost (Bench.newBus .high)).bus.queue, u.key.stream ≠ 1 := by
    simp [Bench.bareHost, Bench.newBus]
  have isClean : clean.IsClean := Urb.isClean_ofLayout ..
  obtain ⟨⟨events, trace, handed⟩, passed⟩ := handed_run (Bench.bareHost (Bench.newBus .high)) 1
    (some "demux")
    [.prepare ⟨2, 0x81, .isoc 2 4 1⟩, .start, .complete 0 { frames := [{ data := some [7] }] }]
    unused
  refine ⟨unused, isClean, rfl, ?_, passed clean (.result .ok 0) isClean rfl⟩
  rw [trace]
  simpa [Bench.bareHost] using handed

/-- What arrived with a transfer that was shut down is passed on by the next one, which received
nothing. -/
theorem stale_isoc :
    let f := run
      { host := Bench.bareHost (Bench.newBus .high), stream := { id := 1, sink := some "demux" } }
      [.prepare ⟨1, 0x81, .isoc 2 4 1⟩, .start,
        .complete 0 { frames := [{ data := some [7] }], status := .shutdown }, .stop, .start]
    (∃ u ∈ f.host.bus.queue, u.key.stream = 1 ∧ ¬ u.IsClean) ∧ f.slices = [] ∧
      (f.act (.complete 0 (.result .ok 0))).slices = [[7]] := by
  decide

end Flow

end DvbReceiver
