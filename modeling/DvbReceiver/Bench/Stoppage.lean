import DvbReceiver.Bench.Stream
import DvbReceiver.Simulation.Stoppage

set_option autoImplicit false

namespace DvbReceiver.Bench

structure StoppageTrial where
  stoppage : Simulation.Stoppage
  released : Flow

def stoppageTrial (speed : Speed) (generator : Simulation.Generator) (layout : Layout)
    (chunks : Nat) : Except Failure StoppageTrial :=
  let flow : Flow :=
    { host := bareHost (Simulation.newBus speed), stream := { id := 0, sink := some "trial" } }
  match flow.prepare layout with
  | (.error e, _) => .error e
  | (.ok (), flow) =>
    match flow.start with
    | (.error e, _) => .error e
    | (.ok (), flow) =>
      let running : Simulation.Running := { flow, generator }
      let stoppage := running.stopAtChunk chunks
      .ok ⟨stoppage, stoppage.flow.release⟩

end DvbReceiver.Bench
