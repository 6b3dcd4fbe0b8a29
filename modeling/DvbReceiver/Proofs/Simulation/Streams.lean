import DvbReceiver.Proofs.Simulation.Filling
import DvbReceiver.Proofs.Stream.Cleanness
import DvbReceiver.Proofs.Stream.Invariant

set_option autoImplicit false

namespace DvbReceiver

namespace Event

def data? : Event → Option Bytes
  | .delivered _ data => some data
  | _ => none

def completed? : Event → Option Urb
  | .returned u => if u.status.isTerminal then none else some u
  | _ => none

end Event

namespace Host

def delivered (h : Host) : List Bytes :=
  (h.trace.filterMap Event.data?).reverse

def completed (h : Host) : List Urb :=
  (h.trace.filterMap Event.completed?).reverse

variable {h h' : Host} {e : Event}

theorem delivered_of_trace (trace : h'.trace = h.trace) : h'.delivered = h.delivered := by
  unfold delivered
  rw [trace]

theorem completed_of_trace (trace : h'.trace = h.trace) : h'.completed = h.completed := by
  unfold completed
  rw [trace]

theorem delivered_cons (trace : h'.trace = e :: h.trace) :
    h'.delivered = h.delivered ++ e.data?.toList := by
  unfold delivered
  cases data : e.data? <;> simp [trace, data]

theorem completed_cons (trace : h'.trace = e :: h.trace) :
    h'.completed = h.completed ++ e.completed?.toList := by
  unfold completed
  cases urb : e.completed? <;> simp [trace, urb]

theorem delivered_noteAll (h : Host) (stream : Nat) (slices : List Bytes) :
    (h.noteAll (slices.map (.delivered stream))).delivered = h.delivered ++ slices := by
  have all : (slices.map (Event.delivered stream)).filterMap Event.data? = slices := by
    simp [List.filterMap_map, Function.comp_def, Event.data?]
  simp [delivered, noteAll_eq, List.filterMap_reverse, all]

theorem completed_noteAll (h : Host) (stream : Nat) (slices : List Bytes) :
    (h.noteAll (slices.map (.delivered stream))).completed = h.completed := by
  have none : (slices.map (Event.delivered stream)).filterMap Event.completed? = [] := by
    simp [List.filterMap_eq_nil_iff, Event.completed?]
  simp [completed, noteAll_eq, List.filterMap_reverse, none]

end Host

namespace Flow

open Simulation (busPolicy)

/-- On the simulated bus, with all requests in shape, after `sent` was passed on and the requests in
`served` came back with a result. -/
structure Fillable (sent : List Bytes) (served : List Urb) (f : Flow) : Prop where
  policy : f.host.bus.policy = busPolicy
  sent : f.host.delivered = sent
  served : f.host.completed = served
  shaped : ∀ u, u ∈ f.host.bus.queue ∨ some u ∈ f.stream.parked → u.Shaped

variable {sent : List Bytes} {served : List Urb} {f f' : Flow} {u : Urb}

namespace Fillable

theorem of_trace (fillable : Fillable sent served f) (trace : f'.host.trace = f.host.trace)
    (policy : f'.host.bus.policy = f.host.bus.policy)
    (held : ∀ u, u ∈ f'.host.bus.queue ∨ some u ∈ f'.stream.parked →
      u.Shaped ∨ u ∈ f.host.bus.queue ∨ some u ∈ f.stream.parked) :
    Fillable sent served f' where
  policy := policy.trans fillable.policy
  sent := (Host.delivered_of_trace trace).trans fillable.sent
  served := (Host.completed_of_trace trace).trans fillable.served
  shaped u there := (held u there).elim (fun shaped => shaped) (fillable.shaped u)

theorem park (fillable : Fillable sent served f) (shaped : u.Shaped) :
    Fillable sent served (f.park u) := by
  refine fillable.of_trace rfl rfl fun v there => ?_
  cases there with
  | inl queued => exact .inr (.inl queued)
  | inr parked =>
    simp only [Flow.park, Stream.parked_park] at parked
    obtain already | here := List.mem_or_eq_of_mem_set parked
    next => exact .inr (.inr already)
    next =>
      cases here
      exact .inl shaped

theorem submit (fillable : Fillable sent served f) (shaped : u.Shaped) :
    Fillable sent served { f with host := (f.host.submit u).2 } := by
  obtain ⟨e, handed, trace⟩ := f.host.trace_submit u
  have silent : e.data? = none ∧ e.completed? = none := by
    cases e <;> first | exact ⟨rfl, rfl⟩ | cases handed
  refine ⟨(f.host.policy_submit u).trans fillable.policy, ?_, ?_, fun v there => ?_⟩
  · rw [Host.delivered_cons trace, silent.1, fillable.sent]
    exact List.append_nil _
  · rw [Host.completed_cons trace, silent.2, fillable.served]
    exact List.append_nil _
  · rw [Host.queue_submit] at there
    split at there
    next =>
      obtain queued | parked := there
      next =>
        obtain before | here := List.mem_append.1 queued
        next => exact fillable.shaped v (.inl before)
        next => rwa [List.mem_singleton.1 here]
      next => exact fillable.shaped v (.inr parked)
    next => exact fillable.shaped v there

theorem requeue (fillable : Fillable sent served f) (shaped : u.Shaped) :
    Fillable sent served (f.requeue u).2 := by
  have submitted := fillable.submit shaped
  obtain ⟨-, same⟩ | ⟨-, -, same, -⟩ | ⟨-, -, host, -, stats, stream⟩ := requeue_cases f u
  next => rwa [same]
  next => rwa [same]
  next =>
    refine submitted.of_trace (congrArg Host.trace host) (congrArg (·.bus.policy) host) fun v => ?_
    rw [host, stream]
    exact .inr

end Fillable

theorem fillable_terminal (fillable : Fillable sent served f) (shaped : u.Shaped)
    (final : u.status.isTerminal = true) : Fillable sent served (f.complete u) := by
  have noted : Fillable sent served { f with host := f.host.note (.returned u) } := by
    refine ⟨fillable.policy, ?_, ?_, fillable.shaped⟩
    · rw [← fillable.sent]
      rfl
    · rw [← fillable.served]
      simp [Host.completed, Host.note, Event.completed?, final]
  unfold complete
  dsimp only
  split
  next => exact noted
  next =>
    exact noted.park shaped

theorem fillable_complete (fillable : Fillable sent served f) (shaped : u.Shaped)
    (more : ¬ u.status.isTerminal = true) (prepared : f.stream.lane.isSome = true) :
    Fillable (sent ++ u.slices) (served ++ [u]) (f.complete u) := by
  have delivered : Fillable (sent ++ u.slices) (served ++ [u])
      (deliver { f with host := f.host.note (.returned u) } u) := by
    have trace : (f.host.note (.returned u)).trace = .returned u :: f.host.trace := rfl
    refine ⟨?_, ?_, ?_, fun v there => ?_⟩
    · rw [bus_deliver]
      exact fillable.policy
    · calc _ = (f.host.note (.returned u)).delivered ++ u.slices := Host.delivered_noteAll ..
        _ = sent ++ u.slices := by rw [Host.delivered_cons trace, fillable.sent]; simp [Event.data?]
    · calc _ = (f.host.note (.returned u)).completed := Host.completed_noteAll ..
        _ = served ++ [u] := by
          rw [Host.completed_cons trace, fillable.served]
          simp [Event.completed?, more]
    · rw [bus_deliver] at there
      exact fillable.shaped v there
  have requeued := delivered.requeue shaped.settled
  have lane : ¬ f.stream.lane.isNone = true := by simpa [Option.isSome_iff_ne_none] using prepared
  unfold complete
  dsimp only
  rw [if_neg lane, if_neg more]
  split
  next same =>
    rw [same] at requeued
    exact requeued
  next left _ same =>
    obtain rfl := requeue_left (congrArg Prod.fst same)
    rw [same] at requeued
    exact requeued.park shaped.settled

theorem fillable_cancel (fillable : Fillable sent served f) (index : Nat) :
    Fillable sent served (f.cancel index) := by
  have policy := f.host.policy_cancel ⟨f.stream.id, index⟩
  have back := f.host.cancel_fst ⟨f.stream.id, index⟩
  obtain ⟨host, -, cancelled, same, queue⟩ | ⟨u, fill, host, key, cancelled, completed, removed⟩ :=
    cancel_cases f index
  next =>
    have trace : host.trace = f.host.trace := (congrArg (·.2.trace) cancelled).symm
    rw [cancelled] at policy
    rw [same]
    refine fillable.of_trace trace policy fun u there => ?_
    rw [queue] at there
    exact .inr there
  next =>
    have trace : host.trace = f.host.trace := (congrArg (·.2.trace) cancelled).symm
    rw [cancelled, fillable.policy] at back
    obtain ⟨v, found, same⟩ := Option.map_eq_some_iff.1 back.symm
    have shaped := fillable.shaped v (.inl (List.mem_of_find?_eq_some found))
    rw [cancelled] at policy
    -- It comes back as cancelled, so that nothing of it is passed on.
    rw [completed, ← same]
    refine fillable_terminal ?_ (shaped.result .cancelled 0) rfl
    refine fillable.of_trace trace policy fun w there => .inr (there.imp_left fun left => ?_)
    exact removed.mem_of_mem left

theorem fillable_takeParked {index : Nat} {stream : Stream} (fillable : Fillable sent served f)
    (taken : f.stream.takeParked index = (some u, stream)) :
    u.Shaped ∧ Fillable sent served { f with stream } := by
  have present : f.stream.parked[index]? = some (some u) := Stream.takeParked_some (by rw [taken])
  have parked := f.stream.parked_takeParked index
  rw [taken] at parked
  refine ⟨fillable.shaped u (.inr (List.mem_of_getElem? present)), ?_⟩
  refine fillable.of_trace rfl rfl fun v there => .inr (there.imp_right fun still => ?_)
  rw [parked] at still
  obtain before | impossible := List.mem_or_eq_of_mem_set still
  next => exact before
  next => cases impossible

theorem startInvariant_fillable (sent : List Bytes) (served : List Urb) :
    StartInvariant (Fillable sent served) where
  flag f on fillable := by
    refine fillable.of_trace rfl rfl fun u there => .inr ?_
    rwa [Stream.parked_setStopping] at there
  cancel _ index fillable _ := fillable_cancel fillable index
  submitted _ _ fillable := fillable.of_trace rfl rfl fun _ => .inr
  refused := by
    intro f _ u _ _ _ fillable taken refused
    obtain ⟨shaped, left⟩ := fillable_takeParked fillable taken
    have handed := left.submit shaped
    rw [refused] at handed
    exact handed.park shaped
  accepted := by
    intro f _ u _ _ fillable taken accepted
    obtain ⟨shaped, left⟩ := fillable_takeParked fillable taken
    have handed := left.submit shaped
    rw [accepted] at handed
    exact handed

theorem fillable_stop (fillable : Fillable sent served f) : Fillable sent served f.stop :=
  (startInvariant_fillable sent served).stop fillable

theorem fillable_start (fillable : Fillable sent served f) : Fillable sent served f.start.2 :=
  (startInvariant_fillable sent served).start fillable

theorem fillable_prepare (fillable : Fillable sent served f) {layout : Layout}
    (fits : layout.Fits) : Fillable sent served (f.prepare layout).2 := by
  unfold prepare
  split
  next => exact fillable
  next =>
    split
    next => exact fillable
    next sink _ =>
      split
      next => exact fillable
      next good =>
        dsimp only
        obtain ⟨buffers, bus, got, -, sizes, same, -⟩ | ⟨bus, got, refused, same, -⟩ :=
          f.stream.pool.allocate_cases (f.host.bus.clearHalt layout.pipe).2 layout.count
            layout.bufferSize
        next =>
          have queue : bus.queue = f.host.bus.queue := same.queue
          rw [got]
          refine fillable.of_trace rfl same.policy fun u there => ?_
          dsimp only at there
          -- Queued is what was queued before; what is parked is new.
          rw [queue] at there
          obtain queued | parked := there
          next => exact .inr (.inl queued)
          next =>
            simp only [Stream.parked, Option.map_some, Option.getD_some, List.mem_map,
              Option.some.injEq] at parked
            obtain ⟨⟨buffer, index⟩, present, rfl⟩ := parked
            have size := sizes buffer (List.fst_mem_of_mem_zipIdx present)
            exact .inl (Urb.shaped_ofLayout _ good fits size)
        next =>
          have queue : bus.queue = f.host.bus.queue := same.queue
          rw [refused]
          refine fillable.of_trace rfl same.policy fun u there => .inr ?_
          rwa [← queue]

theorem fillable_release (fillable : Fillable sent served f) :
    Fillable sent served f.release := by
  have stopped := fillable_stop fillable
  unfold release
  dsimp only
  split
  next => exact stopped.of_trace rfl rfl fun _ => .inr
  next =>
    refine stopped.of_trace rfl (by simp [Pool.release, Bus.freeAll_eq]) fun u there => ?_
    simp [Pool.release, Bus.freeAll_eq, Stream.parked] at there
    exact .inr (.inl there)

end Flow

end DvbReceiver
