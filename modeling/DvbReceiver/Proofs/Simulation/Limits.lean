import DvbReceiver.Command.Report
import DvbReceiver.Proofs.Device.Obliging

set_option autoImplicit false

namespace DvbReceiver.Simulation

open Device (Serving)

variable {h₀ h : Host} {d : Device} {r : Nat → List UrbIdentity} {filtering : Filtering}
  {size buffers i index count : Nat} {pids : List Nat}

section Feeds

end Feeds

section Tuning

end Tuning

section Streaming

structure Live.Served (h₀ : Host) (r : Nat → List UrbIdentity) (filtering : Filtering)
    (size buffers : Nat) (h : Host) (l : Live) : Prop where
  serving : Serving h₀ r filtering size buffers l.host l.device
  calm : h.Calm l.host

variable {l : Live}

theorem Live.Served.completeNext (served : Served h₀ r filtering size buffers h l) :
    Served h₀ r filtering size buffers h l.completeNext := by
  unfold Live.completeNext
  split
  next => exact served
  next =>
    split
    next => exact served
    next u rest bus taken =>
      split
      next => exact ⟨served.serving, served.calm⟩
      next filled generator filling =>
        obtain ⟨fill, rfl⟩ := Generator.exists_fill filling
        obtain ⟨first, rfl⟩ := Prod.mk.inj taken
        cases queued : l.host.bus.queue with
        | nil =>
          rw [queued] at first
          cases first
        | cons v later =>
          rw [queued] at first
          cases first
          have removed : Removed l.host.bus.queue u later := ⟨[], later, queued, rfl⟩
          obtain ⟨serving, steady⟩ := served.serving.complete removed fill
          exact ⟨serving, served.calm.trans steady.toCalm⟩

theorem Live.Served.completeMany (served : Served h₀ r filtering size buffers h l) (count : Nat) :
    Served h₀ r filtering size buffers h (completeMany count l) := by
  induction count generalizing l with
  | zero => exact served
  | succ count ih => exact ih served.completeNext

end Streaming

namespace Options

variable {o : Options} {config : Config} {forced : Bool}

/-- How many feeds there can be on an adapter: a table has 32 entries, and where none is used a
feed is as good as the next one up to 255. -/
def feedLimit (o : Options) (forced : Bool) : Nat :=
  match o.filter with
  | .none => 255
  | .required _ => 32
  | .optional _ => if o.speed = .full ∨ forced = true then 32 else 255

end Options

section Run

variable {o : Options} {config : Config}

end Run

end DvbReceiver.Simulation
