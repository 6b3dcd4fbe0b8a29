import DvbReceiver.Adapter
import DvbReceiver.I2c

set_option autoImplicit false

namespace DvbReceiver.Adapter

def prepareStreams : (count slot : Nat) → Host → Adapter → Except Failure Unit × Host × Adapter
  | 0, _, h, a => (.ok (), h, a)
  | count + 1, slot, h, a =>
    let prepare (f : Flow) : Except Failure Unit × Flow := match a.slots[slot]? with
      | none => (.ok (), f)
      | some s => f.prepare s.props.layout
    match onStream h a slot (.ok ()) prepare with
    | (.error e, h, a) => (.error e, h, a)
    | (.ok (), h, a) => prepareStreams count (slot + 1) h a

def attach (h : Host) (adapter slot : Nat) (i2c : Option String) :
    Except Failure (Option String) × Host :=
  match h.call (.frontendAttach adapter slot) with
  | (.failed e, h) => (.error e, h)
  | (.absent, h) => (.ok none, h)
  | (_, h) =>
    let found (h : Host) : Except Failure (Option String) × Host :=
      (.ok (some (h.driver.frontendName adapter slot)), h.note (.attached adapter slot))
    match i2c with
    | none => found h
    | some bus =>
      let (outcome, h) := h.call (.i2cTransfer 1)
      let handled : Except Failure Nat := match outcome with
        | .failed e => .error e
        | .partly messages => .ok messages
        | _ => .ok 1
      match I2c.conclude bus 1 handled with
      | .error e => (.error e, h)
      | .ok () => found h

def register (h : Host) (what : Registration) : Except Failure Unit × Host :=
  let (result, registry) := h.registry.register what
  (result, { h with registry })

def unregister (h : Host) (place : Place) : Host :=
  { h with registry := h.registry.unregister place }

/-- Attaches and registers the frontends of `count` slots from `slot` on. A slot without a frontend
is passed over, a failure to attach leaves the remaining slots alone, and so does a failure to
register, which is fatal for slot 0. -/
def attachFrontends (i2c : Option String) :
    (count slot : Nat) → Host → Adapter → Except Failure Unit × Host × Adapter
  | 0, _, h, a => (.ok (), h, a)
  | count + 1, slot, h, a =>
    match attach h a.id slot i2c with
    | (.error _, h) => (.ok (), h, a)
    | (.ok none, h) => attachFrontends i2c count (slot + 1) h a
    | (.ok (some name), h) =>
      match register h (.frontend a.id slot name) with
      | (.error e, h) =>
        -- It was attached but never made known, so that `exit` would not find it.
        let (_, h) := h.perform (.demodDetach a.id slot)
        (if slot = 0 then .error (.frontendRegistration a.id e) else .ok (), h, a)
      | (.ok (), h) =>
        let (_, h) := h.perform (.tunerAttach a.id slot)
        let slots := a.slots.modify slot fun s => { s with frontend := some ⟨name, true⟩ }
        attachFrontends i2c count (slot + 1) h { a with slots }

def bringUp (h : Host) (a : Adapter) (name : String) (i2c : Option String) :
    Except Failure Unit × Host × Adapter :=
  match prepareStreams a.slots.length 0 h a with
  | (.error e, h, a) => (.error e, h, a)
  | (.ok (), h, a) =>
    match register h (.adapter a.id name) with
    | (.error e, h) => (.error e, h, a)
    | (.ok (), h) =>
      let a := { a with registered := { a.registered with adapter := true } }
      let limits := ⟨a.maxFeeds, a.slots.any (·.filtering.isHardware)⟩
      match register h (.demux a.id limits) with
      | (.error e, h) => (.error e, h, a)
      | (.ok (), h) =>
        let a := { a with
          demux := some h.registry.newDemux
          registered := { a.registered with demux := true } }
        match register h (.net a.id) with
        | (.error e, h) => (.error e, h, a)
        | (.ok (), h) =>
          let a := { a with registered := { a.registered with net := true } }
          attachFrontends i2c a.slots.length 0 h a

def detachFrontends : (count : Nat) → Host → Adapter → Host × Adapter
  | 0, h, a => (h, a)
  | slot + 1, h, a =>
    match (a.slots[slot]?).bind (·.frontend) with
    | none => detachFrontends slot h a
    | some frontend =>
      if frontend.registered then
        let h := unregister h (.frontend a.id slot)
        let (_, h) := h.perform (.demodDetach a.id slot)
        let slots := a.slots.modify slot fun s =>
          { s with frontend := some { frontend with registered := false } }
        detachFrontends slot h { a with slots }
      else detachFrontends slot h a

def releaseStreams : (count slot : Nat) → Host → Adapter → Host × Adapter
  | 0, _, h, a => (h, a)
  | count + 1, slot, h, a =>
    let (h, a) := releaseStream h a slot
    releaseStreams count (slot + 1) h a

/-- Undoes what `bringUp` did, in reverse. The gate is shut first. -/
def exit (h : Host) (a : Adapter) : Host × Adapter :=
  let (h, a) := setGate h a 0
  let (h, a) := detachFrontends a.slots.length h a
  let h := if a.registered.net then unregister h (.net a.id) else h
  let h := if a.registered.demux then unregister h (.demux a.id) else h
  let h := if a.registered.adapter then unregister h (.adapter a.id) else h
  let a := { a with registered := {} }
  let (h, a) := releaseStreams a.slots.length 0 h a
  (h, { a with feeds := {} })

end DvbReceiver.Adapter
