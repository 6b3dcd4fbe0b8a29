import DvbReceiver.Device

set_option autoImplicit false

namespace DvbReceiver.Device

def bringUpAdapters : (id : Nat) → List (List SlotProperties) → Host → Device →
    Except Failure Unit × Host × Device
  | _, [], h, d => (.ok (), h, d)
  | id, props :: rest, h, d =>
    let a := Adapter.new id props h.bus.speed d.config.forceFilter
    let (result, h, a) := a.bringUp h d.product.name d.i2c
    let d := { d with adapters := d.adapters ++ [a] }
    match result with
    | .error e => (.error e, h, d)
    | .ok () => bringUpAdapters (id + 1) rest h d

def bringUpParts (h : Host) (d : Device) : Except Failure Unit × Host × Device :=
  let properties := h.driver.properties
  let d := { d with
    i2c := if h.driver.hasI2c then some (d.product.name ++ " i2c") else none
    phase := .i2cReady }
  match bringUpAdapters 0 properties.adapters h d with
  | (.error e, h, d) => (.error e, h, d)
  | (.ok (), h, d) =>
    let hasRemote := properties.remoteInterval.isSome && !d.config.disableRemote
    (.ok (), h, { d with phase := .ready, hasRemote })

def exitAdapters (h : Host) : List Adapter → Host × List Adapter
  | [] => (h, [])
  | a :: rest =>
    let (h, rest) := exitAdapters h rest
    let (h, a) := a.exit h
    (h, a :: rest)

def tearDown (h : Host) (d : Device) : Host × Device :=
  let (h, adapters) := exitAdapters h d.adapters
  (h, { d with phase := .uninitialized, i2c := none, adapters, hasRemote := false })

def exit (h : Host) (d : Device) : Host × Device :=
  if d.phase = .uninitialized then (h, d) else tearDown h d

/-- Brings a device up, with its power on meanwhile. After a failure everything is torn down again;
the device that is left shows how. -/
def bringUp (h : Host) (product : Product) (config : Config) :
    Except Failure Unit × Host × Device :=
  let d : Device := { product, config }
  match h.driver.properties.problem? with
  | some e => (.error e, h, d)
  | none =>
    match powerUp h d with
    | (.error e, h, d) => (.error e, h, d)
    | (.ok (), h, d) =>
      match bringUpParts h d with
      | (.error e, h, d) =>
        let (h, d) := tearDown h d
        let (_, h, d) := powerDown h d
        (.error e, h, d)
      | (.ok (), h, d) =>
        let (_, h, d) := powerDown h d
        (.ok (), h, d)

def identify (h : Host) (id : UsbId) : Except Failure Identified :=
  match h.driver.identify h.firmwareLoaded id (identify? h.driver.properties.products id) with
  | .error e => .error e
  | .ok none => .error (.unknownDevice id)
  | .ok (some identified) => .ok identified

def downloadFirmware (h : Host) (image : Bytes) : Except Failure Unit × Host :=
  match h.perform (.downloadFirmware image.length) with
  | (.error e, h) => (.error e, h)
  | (.ok (), h) => (.ok (), { h with firmwareLoaded := true })

inductive Probed where
  | firmwareLoaded (identified : Identified)
  | ready (device : Device)
  deriving DecidableEq, Repr

def probe (h : Host) (id : UsbId) (firmware : String → Except Failure Bytes) (config : Config) :
    Except Failure Probed × Host :=
  match identify h id with
  | .error e => (.error e, h)
  | .ok identified =>
    if identified.cold then
      match h.driver.properties.firmware with
      | none => (.error (.firmwareUnnamed identified.product.name), h)
      | some name =>
        match firmware name with
        | .error e => (.error e, h)
        | .ok image =>
          match downloadFirmware h image with
          | (.error e, h) => (.error (.firmwareRejected name e), h)
          | (.ok (), h) => (.ok (.firmwareLoaded identified), h)
    else
      match bringUp h identified.product config with
      | (.error e, h, _) => (.error e, h)
      | (.ok (), h, d) => (.ok (.ready d), h)

end DvbReceiver.Device
