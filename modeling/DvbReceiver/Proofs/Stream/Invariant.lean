import DvbReceiver.Proofs.Stream.Operations

set_option autoImplicit false

namespace DvbReceiver.Flow

variable {P : Flow → Prop} {f : Flow}

/-- What stopping a stream keeps, step by step. Requests are cancelled with the flag raised only. -/
structure StopInvariant (P : Flow → Prop) : Prop where
  flag : ∀ (f : Flow) (on : Bool), P f → P { f with stream := f.stream.setStopping on }
  cancel : ∀ (f : Flow) (index : Nat), P f → f.stream.stopping = true → P (f.cancel index)
  submitted : ∀ (f : Flow) (n : Nat), P f →
    P { f with stream := { f.stream with submitted := n } }

theorem StopInvariant.cancelFrom (invariant : StopInvariant P) (holds : P f)
    (stopping : f.stream.stopping = true) (count index : Nat) : P (cancelFrom count index f) := by
  induction count generalizing index f with
  | zero => exact holds
  | succ count ih =>
    have still := (returned_cancel f index).stopping.trans stopping
    exact ih (invariant.cancel f index holds stopping) still (index + 1)

theorem StopInvariant.stop (invariant : StopInvariant P) (holds : P f) : P f.stop := by
  have raised := invariant.flag f true holds
  unfold Flow.stop
  dsimp only
  split
  next running =>
    have prepared := (Bool.and_eq_true_iff.1 running).2
    have stopping : (f.stream.setStopping true).stopping = true := by
      rw [Stream.stopping_setStopping]
      simpa [Stream.setStopping] using prepared
    exact invariant.submitted _ 0 (invariant.cancelFrom raised stopping _ _)
  next => exact invariant.submitted _ 0 raised

structure StartInvariant (P : Flow → Prop) : Prop extends StopInvariant P where
  refused : ∀ (f : Flow) {index : Nat} {u : Urb} {stream : Stream} {reason : String} {host : Host},
    P f → f.stream.takeParked index = (some u, stream) → f.host.submit u = (some reason, host) →
      P (park { f with host, stream } u)
  accepted : ∀ (f : Flow) {index : Nat} {u : Urb} {stream : Stream} {host : Host},
    P f → f.stream.takeParked index = (some u, stream) → f.host.submit u = (none, host) →
      P { f with host, stream }

theorem StartInvariant.submitFrom (invariant : StartInvariant P) (holds : P f)
    (count index : Nat) : P (submitFrom count index f).2 := by
  induction count generalizing index f with
  | zero => exact holds
  | succ count ih =>
    unfold Flow.submitFrom
    split
    next => exact invariant.stop holds
    next taken =>
      split
      next refused => exact invariant.stop (invariant.refused f holds taken refused)
      next accepted =>
        have handed := invariant.accepted f holds taken accepted
        exact ih (invariant.submitted _ (index + 1) handed) (index + 1)

theorem StartInvariant.start (invariant : StartInvariant P) (holds : P f) : P f.start.2 := by
  unfold Flow.start
  split
  next => exact holds
  next =>
    split
    next => exact holds
    next => exact invariant.submitFrom (invariant.flag f false holds) _ _

end DvbReceiver.Flow
