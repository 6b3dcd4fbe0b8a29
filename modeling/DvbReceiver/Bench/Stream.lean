import DvbReceiver.Bench.Bus
import DvbReceiver.Bench.Faults
import DvbReceiver.Bench.Reply
import DvbReceiver.Stream

set_option autoImplicit false

namespace DvbReceiver.Bench

def bareHost (bus : Bus) : Host where
  bus
  driver := plainDriver { products := [], adapters := [] }
  registry := { demuxDepth := Demux.defaultDepth }

structure StreamBench where
  flow : Flow
  faults : BusFaults := {}
  dropped : Bool := false

inductive StreamStep where
  | bus (step : BusStep)
  | inspect
  | complete (which : Selection) (fill : Fill)
  | sink (label : String)
  | prepare (layout : Layout)
  | start
  | stop
  | release
  | record
  | drop
  deriving DecidableEq, Repr

namespace StreamBench

def new (speed : Speed) (sink : Option String) : StreamBench where
  flow := { host := bareHost (newBus speed), stream := { id := 0, sink } }

def receiver (b : StreamBench) : String :=
  (b.flow.stream.lane.map (·.sink)).getD ""

/-- Completes what was taken from the queue; what is queued meanwhile is let be. -/
def complete (f : Flow) (which : Selection) (fill : Fill) : Nat × Flow :=
  let (urbs, bus) := which.take f.host.bus
  let f := { f with host := { f.host with bus } }
  (urbs.length, urbs.foldl (fun f u => f.complete (u.fill fill)) f)

def streamStep (f : Flow) : StreamStep → Outcome × Flow
  | .sink label => (.ok .done, { f with stream := { f.stream with sink := some label } })
  | .prepare layout =>
    let (result, f) := f.prepare layout
    (Outcome.ofResult result, f)
  | .start =>
    let (result, f) := f.start
    (Outcome.ofResult result, f)
  | .stop => (.ok .done, f.stop)
  | .record => (.ok (.text f.stream.record), f)
  | _ => (.ok .done, f.release)

def step (b : StreamBench) (s : StreamStep) : Outcome × List Bytes × StreamBench :=
  let f := { b.flow with slices := [] }
  match s with
  | .bus step =>
    let faults := b.faults.apply f.host.bus step
    let bus := { f.host.bus with policy := faults.policy }
    (.ok .done, [], { b with faults, flow := { f with host := { f.host with bus } } })
  | .inspect => (.ok (.urbs f.host.bus.queue), [], b)
  | .complete which fill =>
    let (count, f) := complete f which fill
    (.ok (.count count), f.slices, { b with flow := f })
  | other =>
    if b.dropped then (.error .dropped, [], b)
    else
      let (outcome, f) := streamStep f other
      (outcome, f.slices, { b with flow := f, dropped := other == .drop })

end StreamBench

end DvbReceiver.Bench
