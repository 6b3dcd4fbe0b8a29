import DvbReceiver.Bench.Bus
import DvbReceiver.Bench.Reply
import DvbReceiver.Pool

set_option autoImplicit false

namespace DvbReceiver.Bench

structure PoolBench where
  bus : Bus := newBus .high
  faults : BusFaults := {}
  pool : Pool := {}
  held : List Buffer := []

inductive PoolStep where
  | bus (step : BusStep)
  | inspect
  | complete (which : Selection)
  | allocate (count size : Nat)
  | foreign (count : Nat)
  | release (count : Nat)
  deriving DecidableEq, Repr

namespace PoolBench

def foreignBuffer : Buffer :=
  ⟨0, List.replicate 16 0⟩

def step (b : PoolBench) : PoolStep → Except Crash (Outcome × PoolBench)
  | .bus step =>
    let faults := b.faults.apply b.bus step
    .ok (.ok .done, { b with faults, bus := { b.bus with policy := faults.policy } })
  | .inspect => .ok (.ok (.urbs b.bus.queue), b)
  | .complete which =>
    let (urbs, bus) := which.take b.bus
    .ok (.ok (.count urbs.length), { b with bus })
  | .allocate count size =>
    match b.pool.request b.bus count size with
    | .error crash => .error crash
    | .ok (.error e, pool, bus) => .ok (.error (.failure e), { b with pool, bus })
    | .ok (.ok buffers, pool, bus) =>
      .ok (.ok (.buffers buffers), { b with pool, bus, held := b.held ++ buffers })
  | .foreign count =>
    .ok (.ok .done, { b with held := b.held ++ List.replicate count foreignBuffer })
  | .release count =>
    let buffers := b.held.take count
    let (pool, bus) := b.pool.release b.bus buffers
    .ok (.ok (.count buffers.length), { b with pool, bus, held := b.held.drop count })

end PoolBench

end DvbReceiver.Bench
