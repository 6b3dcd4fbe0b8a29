import DvbReceiver.Bench.Reply
import DvbReceiver.Simulation.Worker

set_option autoImplicit false

namespace DvbReceiver.Bench

structure WorkerBench where
  worker : Simulation.Worker
  buffers : List Buffer := []
  dropped : Bool := false

inductive WorkerStep where
  | speed
  | clearHalt (pipe : Pipe)
  | allocate (size : Nat)
  | free
  | submit (key : UrbKey) (layout : Layout) (size : Nat)
  | cancel (key : UrbKey)
  | hold
  | release
  | drop
  deriving DecidableEq, Repr

namespace WorkerBench

def new (speed : Speed) (pids : List Nat) (loseEvery : Option Nat) : WorkerBench where
  worker :=
    { bus := Simulation.newBus speed
      generator := { source := Packet.Source.ofPids pids, loseEvery } }

def submit (b : WorkerBench) (key : UrbKey) (layout : Layout) (size : Nat) :
    Outcome × List Urb × WorkerBench :=
  match b.worker.allocate size with
  | (.error e, worker) => (.error (.failure e), [], { b with worker })
  | (.ok buffer, worker) =>
    let (returned, worker) := worker.submit (Urb.ofLayout key layout buffer)
    (.ok .done, returned, { b with worker })

def step (b : WorkerBench) (s : WorkerStep) : Outcome × List Urb × WorkerBench :=
  if b.dropped then (.error .dropped, [], b)
  else
    match s with
    | .speed => (.ok (.speed b.worker.bus.speed), [], b)
    | .clearHalt pipe =>
      let (result, bus) := b.worker.bus.clearHalt pipe
      (Outcome.ofResult result, [], { b with worker := { b.worker with bus } })
    | .allocate size =>
      match b.worker.allocate size with
      | (.error e, worker) => (.error (.failure e), [], { b with worker })
      | (.ok buffer, worker) =>
        (.ok (.buffer buffer), [], { b with worker, buffers := b.buffers ++ [buffer] })
    | .free =>
      match b.buffers with
      | [] => (.error .noBuffer, [], b)
      | buffer :: buffers => (.ok .done, [], { b with worker := b.worker.free buffer, buffers })
    | .submit key layout size => b.submit key layout size
    | .cancel key =>
      let (returned, worker) := b.worker.cancel key
      (.ok .done, returned, { b with worker })
    | .hold => (.ok .done, [], { b with worker := b.worker.hold })
    | .release =>
      let (returned, worker) := b.worker.release
      (.ok .done, returned, { b with worker })
    | .drop => (.ok .done, b.worker.shutDown, { b with dropped := true })

end WorkerBench

end DvbReceiver.Bench
