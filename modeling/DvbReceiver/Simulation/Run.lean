import DvbReceiver.Device.Lifecycle
import DvbReceiver.Simulation.Generator
import DvbReceiver.Simulation.Line
import DvbReceiver.Simulation.Receiver

set_option autoImplicit false

namespace DvbReceiver.Simulation

structure Options where
  adapters : Nat := 1
  pids : List Nat := [0x0, 0x100]
  milliseconds : Nat := 500
  isoc : Bool := false
  loseEvery : Option Nat := none
  filter : FilterSupport := .none
  speed : Speed := .high
  deriving DecidableEq, Repr

namespace Options

def tableSize : Nat := 32

/-- Bytes that a list takes up for each adapter in it. -/
def adapterBytes : Nat := 24

def layout (o : Options) : Layout where
  count := 4
  endpoint := 2
  shape := if o.isoc then .isoc 8 (4 * Packet.size) 1 else .bulk (16 * Packet.size)

def receiver (o : Options) : Receiver where
  properties :=
    { products := [fusionHdtv5]
      adapters := List.replicate o.adapters [⟨o.filter, o.layout⟩] }

def host (o : Options) : Host where
  bus := newBus o.speed
  driver := o.receiver.driver
  registry := { demuxDepth := Demux.defaultDepth }

end Options

structure Live where
  host : Host
  device : Device
  generator : Generator
  completions : Nat := 0
  /-- The bus has come to a request that it cannot fill, and completes nothing any more. -/
  stuck : Bool := false

namespace Live

def completeNext (l : Live) : Live :=
  if l.stuck then l
  else
    match l.host.bus.takeFirst 1 with
    | ([], _) => l
    | (u :: _, bus) =>
      match l.generator.serve u with
      | none => { l with stuck := true }
      | some (u, generator) =>
        let (host, device) := Device.complete { l.host with bus } l.device u
        { host, device, generator, completions := l.completions + 1 }

def completeMany : Nat → Live → Live
  | 0, l => l
  | count + 1, l => completeMany count l.completeNext

def drain (l : Live) : Live :=
  let adapters := l.device.adapters.map fun a => { a with demux := a.demux.map (·.drain.2) }
  { l with device := { l.device with adapters } }

/-- Twenty milliseconds, with a completion in each of them and a look at the demuxes at the end.
Nobody asks for the events of it. -/
def round (l : Live) : Live :=
  let after := (l.completeMany 20).drain
  { after with host := { after.host with trace := l.host.trace } }

def rounds : Nat → Live → Live
  | 0, l => l
  | count + 1, l => rounds count l.round

def stream (l : Live) (milliseconds : Nat) : Live :=
  l.rounds ((milliseconds + 19) / 20)

end Live

def startFeeds (adapter : Nat) : (index : Nat) → List Nat → Host → Device →
    Except Failure Unit × Host × Device
  | _, [], h, d => (.ok (), h, d)
  | index, pid :: rest, h, d =>
    match d.startFeed h adapter ⟨pid, index⟩ with
    | (.error e, h, d) => (.error e, h, d)
    | (.ok (), h, d) => startFeeds adapter (index + 1) rest h d

def stopFeeds (adapter : Nat) : (index : Nat) → List Nat → Host → Device →
    Except Failure Unit × Host × Device
  | _, [], h, d => (.ok (), h, d)
  | index, pid :: rest, h, d =>
    match stopFeeds adapter (index + 1) rest h d with
    | (.error e, h, d) => (.error e, h, d)
    | (.ok (), h, d) => d.stopFeed h adapter ⟨pid, index⟩

def feedingLine (d : Device) (adapter : Nat) : List Line :=
  match d.inUse[adapter]? with
  | none => []
  | some a => [.feeding adapter a.feeds.count ((a.slots[0]?).map (·.filtering))]

def tuneIn (pids : List Nat) : (count adapter : Nat) → Host → Device →
    List Line × Except Failure Unit × Host × Device
  | 0, _, h, d => ([], .ok (), h, d)
  | count + 1, adapter, h, d =>
    match d.wake h adapter 0 with
    | (.error e, h, d) => ([], .error e, h, d)
    | (.ok (), h, d) =>
      match startFeeds adapter 0 pids h d with
      | (.error e, h, d) => ([], .error e, h, d)
      | (.ok (), h, d) =>
        let (lines, result, h', d') := tuneIn pids count (adapter + 1) h d
        (feedingLine d adapter ++ lines, result, h', d')

def tuneOut (pids : List Nat) : (count adapter : Nat) → Host → Device →
    Except Failure Unit × Host × Device
  | 0, _, h, d => (.ok (), h, d)
  | count + 1, adapter, h, d =>
    match stopFeeds adapter 0 pids h d with
    | (.error e, h, d) => (.error e, h, d)
    | (.ok (), h, d) =>
      match d.sleep h adapter 0 with
      | (.error e, h, d) => (.error e, h, d)
      | (.ok (), h, d) => tuneOut pids count (adapter + 1) h d

def resultLines (a : Adapter) : List Line :=
  match a.demux with
  | none => []
  | some demux =>
    let received := (a.slots[0]?).toList.map fun slot => Line.received a.id slot.stream.stats
    let watched := demux.state.pids.map fun (pid, count) => Line.watched pid count
    let lost := if 0 < demux.dropped ∨ 0 < demux.state.skipped then
        [Line.lost demux.dropped demux.state.skipped]
      else []
    received ++ watched ++ lost

/-- Brings a receiver up, streams from it for a while and takes it down. The lines up to a failure
are told. -/
def run (o : Options) (config : Config) : List Line × Except Failure Unit :=
  match Device.bringUp o.host fusionHdtv5 config with
  | (.error e, _, _) => ([], .error e)
  | (.ok (), h, d) =>
    let ready := Line.ready d.product.name d.inUse.length
    match tuneIn o.pids d.inUse.length 0 h d with
    | (lines, .error e, _, _) => (ready :: lines, .error e)
    | (lines, .ok (), h, d) =>
      let generator := { source := Packet.Source.ofPids o.pids, loseEvery := o.loseEvery }
      let live := Live.stream { host := h, device := d, generator } o.milliseconds
      match tuneOut o.pids live.device.inUse.length 0 live.host live.device with
      | (.error e, _, _) => (ready :: lines, .error e)
      | (.ok (), h, d) =>
        let live := Live.drain { live with host := h, device := d }
        let results := live.device.inUse.flatMap resultLines
        let (h, _) := live.device.exit live.host
        let bus := Line.bus live.completions h.bus.allocated.length h.bus.freed.length
        (ready :: lines ++ results ++ [bus], .ok ())

end DvbReceiver.Simulation
