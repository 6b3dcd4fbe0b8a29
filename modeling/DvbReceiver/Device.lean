import DvbReceiver.Adapter.Lifecycle
import DvbReceiver.Power

set_option autoImplicit false

namespace DvbReceiver

inductive Phase where
  | uninitialized
  | i2cReady
  | ready
  deriving DecidableEq, Repr

/-- A receiver. After its exit the adapters are out of use, but frontends that somebody still holds
keep their power count and their adapter's bookkeeping. -/
structure Device where
  product : Product
  config : Config
  phase : Phase := .uninitialized
  power : PowerRail := {}
  i2c : Option String := none
  adapters : List Adapter := []
  hasRemote : Bool := false
  deriving DecidableEq, Repr

namespace Device

def inUse (d : Device) : List Adapter :=
  if d.phase = .uninitialized then [] else d.adapters

def record (d : Device) : String :=
  let state := match d.phase with
    | .uninitialized => "Uninitialized"
    | .i2cReady => "I2cReady"
    | .ready => "Ready"
  let registered (r : Registered) := Record.closed "Registered"
    [("adapter", Record.flag r.adapter), ("demux", Record.flag r.demux), ("net", Record.flag r.net)]
  let adapter (a : Adapter) := Record.partly "Adapter"
    [("id", toString a.id), ("slots", toString a.slots.length), ("feeds", toString a.gate),
      ("registered", registered a.registered)]
  let i2c (name : String) := Record.partly "I2cAdapter" [("name", Text.quote name)]
  Record.partly "DvbUsbDevice"
    [("name", Text.quote d.product.name), ("state", state),
      ("adapters", Record.list (d.inUse.map adapter)),
      ("i2c", Record.option i2c d.i2c)]

def powerUp (h : Host) (d : Device) : Except Failure Unit × Host × Device :=
  match d.power.acquire with
  | (none, rail) => (.ok (), h, { d with power := rail })
  | (some _, rail) =>
    match h.perform (.power true) with
    | (.error e, h) => (.error e, h, { d with power := rail.release.2 })
    | (.ok (), h) => (.ok (), h, { d with power := rail })

def powerDown (h : Host) (d : Device) : Except Failure Unit × Host × Device :=
  match d.power.release with
  | (none, rail) => (.ok (), h, { d with power := rail })
  | (some _, rail) =>
    let (result, h) := h.perform (.power false)
    (result, h, { d with power := rail })

def onAdapter {α : Type} (h : Host) (d : Device) (adapter : Nat) (fallback : α)
    (work : Host → Adapter → α × Host × Adapter) : α × Host × Device :=
  match d.adapters[adapter]? with
  | none => (fallback, h, d)
  | some a =>
    let (result, h, a) := work h a
    (result, h, { d with adapters := d.adapters.set adapter a })

def startFeed (h : Host) (d : Device) (adapter : Nat) (feed : Feed) :
    Except Failure Unit × Host × Device :=
  onAdapter h d adapter (.error (.noAdapter adapter)) fun h a => a.startFeed h feed

def stopFeed (h : Host) (d : Device) (adapter : Nat) (feed : Feed) :
    Except Failure Unit × Host × Device :=
  onAdapter h d adapter (.error (.noAdapter adapter)) fun h a => a.stopFeed h feed

def select (d : Device) (adapter slot : Nat) : Except Failure Device :=
  match d.adapters[adapter]? with
  | none => .error (.noAdapter adapter)
  | some a =>
    match a.select slot with
    | .error e => .error e
    | .ok a => .ok { d with adapters := d.adapters.set adapter a }

/-- Power, then the frontend's own switch, then the selection of its slot, then the demodulator.
Only the demodulator's failure leaves the earlier steps in place. -/
def wake (h : Host) (d : Device) (adapter slot : Nat) : Except Failure Unit × Host × Device :=
  match powerUp h d with
  | (.error e, h, d) => (.error e, h, d)
  | (.ok (), h, d) =>
    match h.perform (.frontendControl adapter slot true) with
    | (.error e, h) =>
      let (_, h, d) := powerDown h d
      (.error e, h, d)
    | (.ok (), h) =>
      match d.select adapter slot with
      | .error e =>
        let (_, h) := h.perform (.frontendControl adapter slot false)
        let (_, h, d) := powerDown h d
        (.error e, h, d)
      | .ok d =>
        let (result, h) := h.perform (.demodInit adapter slot)
        (result, h, d)

/-- The steps of `wake` in reverse, none of them kept back by the failure of another. A failure to
switch the power off is told rather than one of the demodulator. -/
def sleep (h : Host) (d : Device) (adapter slot : Nat) : Except Failure Unit × Host × Device :=
  let (result, h) := h.perform (.demodSleep adapter slot)
  let (_, h) := h.perform (.frontendControl adapter slot false)
  -- The stream stops while the device still has power.
  let ((), h, d) := onAdapter h d adapter () fun h a => ((), a.deselect h slot)
  match powerDown h d with
  | (.error e, h, d) => (.error e, h, d)
  | (.ok (), h, d) => (result, h, d)

def complete (h : Host) (d : Device) (u : Urb) : Host × Device :=
  let ((), h, d) := onAdapter h d (u.key.stream / maxFrontends) () fun h a =>
    ((), a.complete h (u.key.stream % maxFrontends) u)
  (h, d)

def i2cTransfer (h : Host) (d : Device) (messages : List I2c.Message) :
    Option (Except Failure Unit) × Host :=
  match d.i2c with
  | none => (none, h)
  | some bus =>
    let (outcome, h) := h.call (.i2cTransfer messages.length)
    let handled : Except Failure Nat := match outcome with
      | .failed e => .error e
      | .partly handled => .ok handled
      | _ => .ok messages.length
    (some (I2c.conclude bus messages.length handled), h)

end Device

end DvbReceiver
