import DvbReceiver.Bench.Bus
import DvbReceiver.Bench.Faults
import DvbReceiver.Bench.Reply
import DvbReceiver.Device.Lifecycle

set_option autoImplicit false

namespace DvbReceiver.Bench

inductive Maker where
  | plain (properties : Properties)
  | simulated (subject : Subject)
  deriving DecidableEq, Repr

def Maker.driver : Maker → Driver
  | .plain properties => plainDriver properties
  | .simulated subject => subject.driver

/-- A device on a bus worked by hand. The device that was last brought up is kept after it is
dropped, for the sake of its frontends and demuxes. -/
structure DeviceBench where
  host : Host
  maker : Maker
  config : Config
  images : List (String × Bytes)
  faults : BusFaults := {}
  last : Option Device := none
  current : Bool := false

inductive DeviceStep where
  | bus (step : BusStep)
  | inspect
  | complete (which : Selection) (fill : Fill)
  | fault (fault : Simulation.Fault)
  | clearFault (fault : Simulation.Fault)
  | inject (injection : Injection)
  | clearInjection (injection : Injection)
  | refuse (place : Place)
  | verdict (verdict : Option Verdict)
  | identify (id : UsbId)
  | bringUp (product : Product)
  | probe (id : UsbId)
  | exit
  | drop
  | wake (adapter slot : Nat)
  | sleep (adapter slot : Nat)
  | startFeed (adapter : Nat) (feed : Feed)
  | stopFeed (adapter : Nat) (feed : Feed)
  | deliver (adapter : Nat) (data : Bytes)
  | wakeKept (adapter slot : Nat)
  | sleepKept (adapter slot : Nat)
  | drain (adapter : Nat)
  | keys (codes : List Nat)
  | i2cWrite (address : Nat) (data : Bytes)
  | i2cRead (address : Nat) (register : Bytes) (length : Nat)
  | records
  deriving DecidableEq, Repr

namespace DeviceBench

def new (maker : Maker) (config : Config) (speed : Speed) (demuxDepth : Nat)
    (images : List (String × Bytes)) : DeviceBench where
  host := { bus := newBus speed, driver := maker.driver, registry := { demuxDepth } }
  maker
  config
  images

def device? (b : DeviceBench) : Option Device :=
  if b.current then b.last else none

def firmware (b : DeviceBench) (name : String) : Except Failure Bytes :=
  match b.images.lookup name with
  | none => .error (.firmware name "no such image")
  | some image => .ok image

def setMaker (b : DeviceBench) (maker : Maker) : DeviceBench :=
  { b with maker, host := { b.host with driver := maker.driver } }

def adjust (b : DeviceBench) (change : Subject → Subject) : Outcome × DeviceBench :=
  match b.maker with
  | .plain _ => (.error .plainDriver, b)
  | .simulated subject => (.ok .done, b.setMaker (.simulated (change subject)))

def setVerdict (b : DeviceBench) (verdict : Option Verdict) : DeviceBench :=
  (b.adjust fun s => { s with verdict }).2

def adjustFaults (b : DeviceBench) (change : List Simulation.Fault → List Simulation.Fault) :
    Outcome × DeviceBench :=
  b.adjust fun s => { s with receiver := { s.receiver with faults := change s.receiver.faults } }

def drop (b : DeviceBench) : DeviceBench :=
  match b.device? with
  | none => b
  | some d =>
    let (host, d) := d.exit b.host
    { b with host, last := some d, current := false }

def keep (b : DeviceBench) (d : Device) : DeviceBench :=
  { b with last := some d, current := true }

def bringUp (b : DeviceBench) (product : Product) : Outcome × DeviceBench :=
  match Device.bringUp b.host product b.config with
  | (.error e, host, _) => (.error (.failure e), { b with host })
  | (.ok (), host, d) => (.ok .done, { b with host }.keep d)

def probe (b : DeviceBench) (id : UsbId) : Outcome × DeviceBench :=
  match Device.probe b.host id b.firmware b.config with
  | (.error e, host) => (.error (.failure e), { b with host })
  | (.ok (.firmwareLoaded identified), host) => (.ok (.firmwareLoaded identified), { b with host })
  | (.ok (.ready d), host) => (.ok (.ready d.product.name), { b with host }.keep d)

def onLast (b : DeviceBench) (d : Device)
    (work : Host → Device → Except Failure Unit × Host × Device) : Outcome × DeviceBench :=
  let (result, host, d) := work b.host d
  (Outcome.ofResult result, { b with host, last := some d })

def onAdapter (b : DeviceBench) (adapter : Nat)
    (work : Host → Device → Except Failure Unit × Host × Device) : Outcome × DeviceBench :=
  match b.device? with
  | none => (.error .noDevice, b)
  | some d =>
    match d.inUse[adapter]? with
    | none => (.error .noAdapter, b)
    | some _ => b.onLast d work

def hasFrontend (a : Adapter) (slot : Nat) : Bool :=
  ((a.slots[slot]?).bind (·.frontend)).any (·.registered)

def onFrontend (b : DeviceBench) (adapter slot : Nat)
    (work : Host → Device → Except Failure Unit × Host × Device) : Outcome × DeviceBench :=
  match b.device? with
  | none => (.error .noDevice, b)
  | some d =>
    match d.inUse[adapter]? with
    | none => (.error .noAdapter, b)
    | some a => if hasFrontend a slot then b.onLast d work else (.error .noFrontend, b)

def onKept (b : DeviceBench) (adapter slot : Nat)
    (work : Host → Device → Except Failure Unit × Host × Device) : Outcome × DeviceBench :=
  match b.last with
  | none => (.error .noHandle, b)
  | some d =>
    match (d.adapters[adapter]?).bind fun a => (a.slots[slot]?).bind (·.frontend) with
    | none => (.error .noHandle, b)
    | some _ => b.onLast d work

def deliver (b : DeviceBench) (adapter : Nat) (data : Bytes) : Outcome × DeviceBench :=
  b.onAdapter adapter fun h d =>
    let ((), h, d) := d.onAdapter h adapter () fun h a =>
      ((), h, { a with demux := a.demux.map (·.deliver data) })
    (.ok (), h, d)

def drain (b : DeviceBench) (adapter : Nat) : Outcome × DeviceBench :=
  match b.last with
  | none => (.error .noDemux, b)
  | some d =>
    match (d.adapters[adapter]?).bind (·.demux) with
    | none => (.error .noDemux, b)
    | some demux =>
      let (matched, demux) := demux.drain
      let adapters := d.adapters.modify adapter fun a => { a with demux := some demux }
      (.ok (.drained matched demux), { b with last := some { d with adapters } })

def keys (b : DeviceBench) (codes : List Nat) : Outcome :=
  match b.device?, b.maker with
  | some d, .simulated _ =>
    if d.hasRemote then .ok (.keys (codes.map fun code => ⟨code, true⟩)) else .error .noRemote
  | _, _ => .error .noDevice

def i2c (b : DeviceBench) (messages : List I2c.Message) : Outcome × DeviceBench :=
  match b.device? with
  | none => (.error .noDevice, b)
  | some d =>
    match d.i2cTransfer b.host messages with
    | (none, host) => (.error .noI2c, { b with host })
    | (some result, host) => (Outcome.ofResult result, { b with host })

def keptFrontends (b : DeviceBench) : List Frontend :=
  (b.last.map (·.adapters)).getD [] |>.flatMap fun a => a.slots.filterMap (·.frontend)

def records (b : DeviceBench) : Reply :=
  let frontend (f : Frontend) := Record.closed "FrontendHandle" [("name", Text.quote f.name)]
  let driver := match b.maker with
    | .plain _ => none
    | .simulated subject => some subject.receiver.record
  .records (b.device?.map Device.record) (b.keptFrontends.map frontend) driver

def complete (b : DeviceBench) (which : Selection) (fill : Fill) : Outcome × DeviceBench :=
  let (urbs, bus) := which.take b.host.bus
  let host := { b.host with bus }
  match b.last with
  | none => (.ok (.count urbs.length), { b with host })
  | some d =>
    let (host, d) := urbs.foldl (fun (h, d) u => Device.complete h d (u.fill fill)) (host, d)
    (.ok (.count urbs.length), { b with host, last := some d })

def step (b : DeviceBench) : DeviceStep → Outcome × DeviceBench
  | .bus step =>
    let faults := b.faults.apply b.host.bus step
    let bus := { b.host.bus with policy := faults.policy }
    (.ok .done, { b with faults, host := { b.host with bus } })
  | .inspect => (.ok (.urbs b.host.bus.queue), b)
  | .complete which fill => b.complete which fill
  | .fault fault => b.adjustFaults (Simulation.Fault.insert fault)
  | .clearFault fault => b.adjustFaults (·.filter (· != fault))
  | .inject injection => b.adjust fun s => { s with injections := injection :: s.injections }
  | .clearInjection injection => b.adjust fun s =>
    { s with injections := s.injections.filter (· != injection) }
  | .refuse place =>
    (.ok .done, { b with host := { b.host with registry := b.host.registry.refuse place } })
  | .verdict verdict => (.ok .done, b.setVerdict verdict)
  | .identify id =>
    match Device.identify b.host id with
    | .error e => (.error (.failure e), b)
    | .ok identified => (.ok (.identified identified), b)
  | .bringUp product => b.drop.bringUp product
  | .probe id => b.drop.probe id
  | .exit =>
    match b.device? with
    | none => (.error .noDevice, b)
    | some d =>
      let (host, d) := d.exit b.host
      (.ok .done, { b with host, last := some d })
  | .drop => (.ok .done, b.drop)
  | .wake adapter slot => b.onFrontend adapter slot fun h d => d.wake h adapter slot
  | .sleep adapter slot => b.onFrontend adapter slot fun h d => d.sleep h adapter slot
  | .startFeed adapter feed => b.onAdapter adapter fun h d => d.startFeed h adapter feed
  | .stopFeed adapter feed => b.onAdapter adapter fun h d => d.stopFeed h adapter feed
  | .deliver adapter data => b.deliver adapter data
  | .wakeKept adapter slot => b.onKept adapter slot fun h d => d.wake h adapter slot
  | .sleepKept adapter slot => b.onKept adapter slot fun h d => d.sleep h adapter slot
  | .drain adapter => b.drain adapter
  | .keys codes => (b.keys codes, b)
  | .i2cWrite address data => b.i2c (I2c.writeMessages address data)
  | .i2cRead address register length =>
    b.i2c (I2c.readMessages address register (List.replicate length 0xEE))
  | .records => (.ok b.records, b)

def hooksSince (earlier later : DeviceBench) : List Hook :=
  match later.maker with
  | .plain _ => []
  | .simulated _ =>
    (later.host.trace.take (later.host.trace.length - earlier.host.trace.length)).reverse.filterMap
      fun
      | .called hook _ => some hook
      | _ => none

end DeviceBench

def registryEventsSince (earlier later : Registry) : List RegistryEvent :=
  (later.events.take (later.events.length - earlier.events.length)).reverse

def haltsSince (earlier later : Bus) : List Pipe :=
  (later.halts.take (later.halts.length - earlier.halts.length)).reverse

end DvbReceiver.Bench
