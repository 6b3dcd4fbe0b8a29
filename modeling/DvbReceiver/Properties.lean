import DvbReceiver.Failure
import DvbReceiver.Filtering
import DvbReceiver.Usb.Product

set_option autoImplicit false

namespace DvbReceiver

def maxAdapters : Nat := 2

def maxFrontends : Nat := 3

structure SlotProperties where
  filter : FilterSupport
  layout : Layout
  deriving DecidableEq, Repr

structure Properties where
  products : List Product
  firmware : Option String := none
  adapters : List (List SlotProperties)
  /-- Milliseconds between two looks at the remote control. -/
  remoteInterval : Option Nat := none
  deriving DecidableEq, Repr

namespace Properties

def slotProblem? (adapter slot : Nat) (p : SlotProperties) : Option Failure :=
  match p.layout.problem? with
  | some problem => some (.slotLayout adapter slot problem)
  | none => if p.filter.entries? = some 0 then some (.emptyFilterTable adapter slot) else none

def slotsProblem? (adapter : Nat) : Nat → List SlotProperties → Option Failure
  | _, [] => none
  | slot, p :: rest => (slotProblem? adapter slot p).or (slotsProblem? adapter (slot + 1) rest)

def adapterProblem? (adapter : Nat) (slots : List SlotProperties) : Option Failure :=
  if slots.length = 0 ∨ maxFrontends < slots.length then
    some (.frontendCount adapter slots.length)
  else slotsProblem? adapter 0 slots

def adaptersProblem? : Nat → List (List SlotProperties) → Option Failure
  | _, [] => none
  | adapter, slots :: rest =>
    (adapterProblem? adapter slots).or (adaptersProblem? (adapter + 1) rest)

def problem? (p : Properties) : Option Failure :=
  if p.adapters.length = 0 ∨ maxAdapters < p.adapters.length then
    some (.adapterCount p.adapters.length)
  else adaptersProblem? 0 p.adapters

def validate (p : Properties) : Except Failure Unit :=
  match p.problem? with
  | none => .ok ()
  | some e => .error e

def record (p : Properties) : String :=
  let product (d : Product) := Record.closed "DeviceDescription"
    [("name", Text.quote d.name),
      ("cold_ids", Record.list (d.coldIds.map UsbId.record)),
      ("warm_ids", Record.list (d.warmIds.map UsbId.record))]
  let slot (s : SlotProperties) := Record.closed "FrontendSlotProperties"
    [("pid_filter", s.filter.record), ("stream", s.layout.record)]
  let adapter (slots : List SlotProperties) := Record.closed "AdapterProperties"
    [("frontends", Record.list (slots.map slot))]
  let remote (interval : Nat) := Record.closed "RemoteProperties"
    [("interval", toString interval ++ "ms")]
  Record.closed "DeviceProperties"
    [("devices", Record.list (p.products.map product)),
      ("firmware", Record.option Text.quote p.firmware),
      ("adapters", Record.list (p.adapters.map adapter)),
      ("remote", Record.option remote p.remoteInterval)]

end Properties

end DvbReceiver
