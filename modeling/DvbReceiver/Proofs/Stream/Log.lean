import DvbReceiver.Proofs.Stream.Invariant

set_option autoImplicit false

namespace DvbReceiver

variable {α : Type}

def Event.seen (view : Hook → HookOutcome → Option α) : Event → Option α
  | .called hook outcome => view hook outcome
  | _ => none

namespace Host

def log (view : Hook → HookOutcome → Option α) (h : Host) : List α :=
  h.trace.filterMap (Event.seen view)

variable (view : Hook → HookOutcome → Option α)

theorem log_note (h : Host) {e : Event} (unseen : e.seen view = none) :
    (h.note e).log view = h.log view :=
  List.filterMap_cons_none unseen

theorem log_noteAll (h : Host) {events : List Event} (unseen : ∀ e ∈ events, e.seen view = none) :
    (h.noteAll events).log view = h.log view := by
  rw [noteAll_eq, log, List.filterMap_append, List.filterMap_eq_nil_iff.2, List.nil_append]
  · rfl
  · exact fun e there => unseen e (List.mem_reverse.1 there)

theorem log_perform (h : Host) (hook : Hook) :
    (h.perform hook).2.log view =
      (view hook (h.driver.answer h.calls hook)).toList ++ h.log view := by
  cases seen : view hook (h.driver.answer h.calls hook) with
  | none => exact List.filterMap_cons_none seen
  | some entry => exact List.filterMap_cons_some seen

theorem log_perform_unseen (h : Host) {hook : Hook} (unseen : ∀ outcome, view hook outcome = none) :
    (h.perform hook).2.log view = h.log view := by
  rw [log_perform, unseen]
  rfl

theorem log_submit (h : Host) (u : Urb) : (h.submit u).2.log view = h.log view := by
  unfold submit
  split
  next => exact log_note view _ rfl
  next => exact log_note view _ rfl

end Host

-- Streams never call the driver.
namespace Flow

variable (view : Hook → HookOutcome → Option α)

theorem log_deliver (f : Flow) (u : Urb) : (f.deliver u).host.log view = f.host.log view :=
  Host.log_noteAll view _ (by simp [Event.seen])

theorem log_requeue (f : Flow) (u : Urb) : (f.requeue u).2.host.log view = f.host.log view := by
  obtain ⟨-, same⟩ | ⟨-, -, same, -⟩ | ⟨-, -, host, -⟩ := requeue_cases f u
  next => rw [same]
  next =>
    rw [same]
    exact Host.log_submit view f.host u
  next =>
    rw [host]
    exact Host.log_submit view f.host u

theorem log_complete (f : Flow) (u : Urb) : (f.complete u).host.log view = f.host.log view := by
  have noted : (f.host.note (.returned u)).log view = f.host.log view := Host.log_note view _ rfl
  unfold complete
  dsimp only
  split
  next => exact noted
  next =>
    split
    next => exact noted
    next =>
      have delivered := log_deliver view { f with host := f.host.note (.returned u) } u
      have requeued := log_requeue view
        (deliver { f with host := f.host.note (.returned u) } u) u.settled
      split
      next outcome =>
        rw [outcome] at requeued
        exact requeued.trans (delivered.trans noted)
      next outcome =>
        rw [outcome] at requeued
        exact requeued.trans (delivered.trans noted)

theorem log_cancel (f : Flow) (index : Nat) : (f.cancel index).host.log view = f.host.log view := by
  unfold cancel
  dsimp only
  split
  next => rfl
  next u _ => exact log_complete view _ u

theorem startInvariant_log (entries : List α) :
    StartInvariant fun f => f.host.log view = entries where
  flag _ _ holds := holds
  cancel f index holds _ := (log_cancel view f index).trans holds
  submitted _ _ holds := holds
  refused := by
    intro f _ u _ _ _ holds _ refused
    have submitted := Host.log_submit view f.host u
    rw [refused] at submitted
    exact submitted.trans holds
  accepted := by
    intro f _ u _ _ holds _ accepted
    have submitted := Host.log_submit view f.host u
    rw [accepted] at submitted
    exact submitted.trans holds

theorem log_stop (f : Flow) : f.stop.host.log view = f.host.log view :=
  (startInvariant_log view (f.host.log view)).stop rfl

theorem log_start (f : Flow) : f.start.2.host.log view = f.host.log view :=
  (startInvariant_log view (f.host.log view)).start rfl

theorem log_prepare (f : Flow) (layout : Layout) :
    (f.prepare layout).2.host.log view = f.host.log view := by
  unfold prepare
  split
  next => rfl
  next =>
    split
    next => rfl
    next =>
      split
      next => rfl
      next =>
        dsimp only
        split
        next => rfl
        next => rfl

theorem log_release (f : Flow) : f.release.host.log view = f.host.log view := by
  have stopped := log_stop view f
  unfold release
  dsimp only
  split
  next => exact stopped
  next => exact stopped

end Flow

end DvbReceiver
