import DvbReceiver.Simulation.Generator
import DvbReceiver.Stream

set_option autoImplicit false

namespace DvbReceiver.Simulation

structure Running where
  flow : Flow
  generator : Generator
  completions : Nat := 0

structure Stoppage where
  queued : Nat
  completions : Nat
  flow : Flow

namespace Running

/-- Completes requests until the sink has got `chunks` chunks, and stops the stream while the sink
handles the last of them. The request that it came with is completed after the stop. -/
def stopAt (chunks : Nat) : (fuel : Nat) → Running → Stoppage
  | 0, r => ⟨r.flow.host.bus.queue.length, r.completions, r.flow.stop⟩
  | fuel + 1, r =>
    match r.flow.host.bus.takeFirst 1 with
    | ([], _) => ⟨0, r.completions, r.flow.stop⟩
    | (u :: _, bus) =>
      let flow := { r.flow with host := { r.flow.host with bus } }
      match r.generator.serve u with
      | none => ⟨bus.queue.length, r.completions, flow.stop⟩
      | some (u, generator) =>
        let completions := r.completions + 1
        if flow.slices.length + u.slices.length < chunks then
          stopAt chunks fuel { flow := flow.complete u, generator, completions }
        else ⟨bus.queue.length, completions, flow.stop.complete u⟩

def stopAtChunk (r : Running) (chunks : Nat) : Stoppage :=
  r.stopAt chunks (2 * chunks + 2)

end Running

end DvbReceiver.Simulation
