import DvbReceiver.Proofs.Stream.Invariant

set_option autoImplicit false

namespace DvbReceiver

def Event.OfWithdrawal (stream : Nat) : Event → Prop
  | .returned u => u.key.stream = stream
  | .delivered s _ => s = stream
  | _ => False

/-- Since `h₀` requests of a stream came back, with these events. Whatever the bus had then, it has
still, or it is one of them. -/
structure Withdrawn (stream : Nat) (h₀ h : Host) (events : List Event) : Prop where
  trace : h.trace = events ++ h₀.trace
  work : ∀ e ∈ events, e.OfWithdrawal stream
  back : ∀ u ∈ h₀.bus.queue, u ∈ h.bus.queue ∨ ∃ v, .returned v ∈ events ∧ v.key = u.key

theorem Withdrawn.refl (stream : Nat) (h : Host) : Withdrawn stream h h [] where
  trace := rfl
  work := by simp
  back u queued := .inl queued

namespace Flow

variable {h₀ : Host} {f : Flow}

theorem trace_complete (u : Urb) (stopping : f.stream.stopping = true) :
    ∃ slices : List Bytes, (f.complete u).host.trace =
      (slices.map (Event.delivered f.stream.id)).reverse ++ .returned u :: f.host.trace := by
  unfold complete
  dsimp only
  split
  next => exact ⟨[], rfl⟩
  next =>
    split
    next => exact ⟨[], rfl⟩
    next =>
      let g : Flow := deliver { f with host := f.host.note (.returned u) } u
      have delivered : g.host.trace =
          (u.slices.map (Event.delivered f.stream.id)).reverse ++ .returned u :: f.host.trace := by
        simp only [g, deliver, passOn, Host.noteAll_eq]
        rfl
      have raised : g.stream.stopping = true := stopping
      obtain ⟨-, same⟩ | ⟨lowered, -⟩ | ⟨lowered, -⟩ := requeue_cases g u.settled
      next =>
        rw [same]
        exact ⟨u.slices, delivered⟩
      next => simp [raised] at lowered
      next => simp [raised] at lowered

theorem withdrawn_cancel {events : List Event}
    (withdrawn : Withdrawn f.stream.id h₀ f.host events) (stopping : f.stream.stopping = true)
    (index : Nat) : ∃ events', Withdrawn f.stream.id h₀ (f.cancel index).host events' := by
  obtain ⟨host, -, cancelled, same, queue⟩ | ⟨u, fill, host, key, cancelled, completed, removed⟩ :=
    cancel_cases f index
  next =>
    have trace : host.trace = f.host.trace := (congrArg (·.2.trace) cancelled).symm
    rw [same]
    exact ⟨events, trace.trans withdrawn.trace, withdrawn.work, by
      rw [queue]
      exact withdrawn.back⟩
  next =>
    have trace : host.trace = f.host.trace := (congrArg (·.2.trace) cancelled).symm
    obtain ⟨slices, taken⟩ := trace_complete (f := { f with host }) (u.fill fill) stopping
    have left := queue_complete { f with host } (u.fill fill) stopping
    rw [completed]
    refine ⟨(slices.map (.delivered f.stream.id)).reverse ++ .returned (u.fill fill) :: events,
      ?_, ?_, fun v queued => ?_⟩
    · rw [taken, trace, withdrawn.trace]
      simp
    · have own : (u.fill fill).key.stream = f.stream.id := by rw [u.key_fill, key]
      simp only [List.mem_append, List.mem_reverse, List.mem_map, List.mem_cons]
      rintro e (⟨data, -, rfl⟩ | rfl | earlier)
      · rfl
      · exact own
      · exact withdrawn.work e earlier
    · rw [left]
      obtain queued | ⟨w, returned, same⟩ := withdrawn.back v queued
      -- It is the one that was cancelled, or it stands before or behind that one in the queue.
      · obtain ⟨before, after, whole, rest⟩ := removed
        rw [whole] at queued
        obtain earlier | later := List.mem_append.1 queued
        · exact .inl (rest ▸ List.mem_append_left _ earlier)
        · obtain rfl | later := List.mem_cons.1 later
          · exact .inr ⟨v.fill fill, by simp, v.key_fill fill⟩
          · exact .inl (rest ▸ List.mem_append_right _ later)
      · exact .inr ⟨w, by simp [returned], same⟩

theorem withdrawn_stop (f : Flow) :
    ∃ events, Withdrawn f.stream.id f.host f.stop.host events := by
  have invariant : StopInvariant fun g => g.stream.id = f.stream.id ∧
      ∃ events, Withdrawn f.stream.id f.host g.host events :=
    { flag := fun _ _ holds => holds
      cancel := by
        rintro g index ⟨own, events, withdrawn⟩ stopping
        rw [← own] at withdrawn ⊢
        exact ⟨(returned_cancel g index).id, withdrawn_cancel withdrawn stopping index⟩
      submitted := fun _ _ holds => holds }
  exact (invariant.stop ⟨rfl, [], .refl _ _⟩).2

end Flow

end DvbReceiver
