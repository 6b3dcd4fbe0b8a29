import DvbReceiver.Config
import DvbReceiver.Stream

set_option autoImplicit false

namespace DvbReceiver

/-- A frontend that was attached. Whoever holds on to it can use it even after it is detached. -/
structure Frontend where
  name : String
  registered : Bool
  deriving DecidableEq, Repr

structure Slot where
  props : SlotProperties
  filtering : Filtering
  stream : Stream
  frontend : Option Frontend := none
  deriving DecidableEq, Repr

structure Feeds where
  count : Nat := 0
  active : Option Nat := none
  streaming : Option Nat := none
  deriving DecidableEq, Repr

structure Registered where
  adapter : Bool := false
  demux : Bool := false
  net : Bool := false
  deriving DecidableEq, Repr

structure Adapter where
  id : Nat
  slots : List Slot
  feeds : Feeds := {}
  /-- The number of feeds as the sink sees it; at 0 no data gets through to the demux. -/
  gate : Nat := 0
  demux : Option Demux := none
  registered : Registered := {}
  deriving DecidableEq, Repr

structure Feed where
  pid : Nat
  index : Nat
  deriving DecidableEq, Repr

namespace Adapter

def streamId (adapter slot : Nat) : Nat :=
  adapter * maxFrontends + slot

def new (id : Nat) (props : List SlotProperties) (speed : Speed) (forceFilter : Bool) :
    Adapter where
  id
  slots := props.zipIdx.map fun (p, slot) =>
    { props := p
      filtering := Filtering.choose p.filter speed forceFilter
      stream := { id := streamId id slot, sink := some "adapter" } }

def maxFeeds (a : Adapter) : Nat :=
  ((a.slots.map (·.filtering.maxFeeds)).min?).getD Filtering.softwareFeeds

def frontendCount (a : Adapter) : Nat :=
  a.slots.countP fun slot => slot.frontend.any (·.registered)

def setGate (h : Host) (a : Adapter) (feeds : Nat) : Host × Adapter :=
  (h.note (.gated a.id feeds), { a with gate := feeds })

def offer (h : Host) (a : Adapter) (slices : List Bytes) : Host × Adapter :=
  match a.demux with
  | none => (h, a)
  | some demux =>
    if a.gate = 0 then (h, a)
    else
      (h.noteAll (slices.map (.offered a.id)),
        { a with demux := some (slices.foldl Demux.deliver demux) })

def onStream {α : Type} (h : Host) (a : Adapter) (slot : Nat) (fallback : α)
    (work : Flow → α × Flow) : α × Host × Adapter :=
  match a.slots[slot]? with
  | none => (fallback, h, a)
  | some s =>
    let (result, f) := work { host := h, stream := s.stream }
    let (h, a) := offer f.host { a with slots := a.slots.set slot { s with stream := f.stream } }
      f.slices
    (result, h, a)

def startStream (h : Host) (a : Adapter) (slot : Nat) : Except Failure Unit × Host × Adapter :=
  onStream h a slot (.ok ()) Flow.start

def stopStream (h : Host) (a : Adapter) (slot : Nat) : Host × Adapter :=
  (onStream h a slot () fun f => ((), f.stop)).2

def releaseStream (h : Host) (a : Adapter) (slot : Nat) : Host × Adapter :=
  (onStream h a slot () fun f => ((), f.release)).2

def complete (h : Host) (a : Adapter) (slot : Nat) (u : Urb) : Host × Adapter :=
  (onStream h a slot () fun f => ((), f.complete u)).2

/-- Switching the device's stream off after a failure can fail as well, which changes nothing. -/
def streamingOff (h : Host) (a : Adapter) : Host :=
  (h.perform (.streaming a.id false)).2

def startStreaming (h : Host) (a : Adapter) (slot : Nat) (s : Slot) :
    Except Failure Unit × Host × Adapter :=
  let (h, a) := stopStream h a slot
  match h.perform (.streaming a.id true) with
  | (.error e, h) => (.error (.streamingControl true e), h, a)
  | (.ok (), h) =>
    match startStream h a slot with
    | (.error e, h, a) => (.error e, streamingOff h a, a)
    | (.ok (), h, a) =>
      match s.props.filter with
      | .optional _ =>
        let enabled := s.filtering.isHardware
        match h.perform (.pidFilterControl a.id enabled) with
        | (.error e, h) =>
          let (h, a) := stopStream h a slot
          (.error (.filterControl enabled e), streamingOff h a, a)
        | (.ok (), h) => (.ok (), h, a)
      | _ => (.ok (), h, a)

def feedSlot (a : Adapter) : Except Failure (Nat × Slot) :=
  match a.feeds.streaming.or a.feeds.active with
  | none => .error (.noActiveFrontend a.id)
  | some slot =>
    match a.slots[slot]? with
    | none => .error (.frontendMissing a.id slot)
    | some s => .ok (slot, s)

def refusal? (a : Adapter) (s : Slot) (feed : Feed) : Option Failure :=
  let beyond := match s.filtering with
    | .hardware entries =>
      if entries ≤ feed.index then some (Failure.filterIndex feed.index entries) else none
    | .software => none
  beyond.or <|
    if s.filtering.maxFeeds ≤ a.feeds.count then some (.feedLimit a.id a.feeds.count) else none

def watch (a : Adapter) (pid : Nat) (on : Bool) : Adapter :=
  { a with demux := a.demux.map (·.watch pid on) }

/-- Counts a feed in and sets its filters. A table entry that cannot be set is no obstacle: the
demux filters too. -/
def addFeed (h : Host) (a : Adapter) (s : Slot) (feed : Feed) : Host × Adapter :=
  let a := { a with feeds := { a.feeds with count := a.feeds.count + 1 } }
  let (h, a) := setGate h a a.feeds.count
  let h := if s.filtering.isHardware then
      (h.perform (.pidFilter a.id feed.index feed.pid true)).2
    else h
  (h, a.watch feed.pid true)

def startFeed (h : Host) (a : Adapter) (feed : Feed) : Except Failure Unit × Host × Adapter :=
  if Packet.maxPid < feed.pid then (.error (.pidRange feed.pid), h, a)
  else
    match a.feedSlot with
    | .error e => (.error e, h, a)
    | .ok (slot, s) =>
      match a.refusal? s feed with
      | some e => (.error e, h, a)
      | none =>
        if a.feeds.streaming.isSome then
          let (h, a) := addFeed h a s feed
          (.ok (), h, a)
        else
          -- Open before the stream starts, or its first data would be lost.
          let (h, a) := setGate h a (a.feeds.count + 1)
          match startStreaming h a slot s with
          | (.error e, h, a) =>
            let (h, a) := setGate h a a.feeds.count
            (.error e, h, a)
          | (.ok (), h, a) =>
            let a := { a with feeds := { a.feeds with streaming := a.feeds.active } }
            let (h, a) := addFeed h a s feed
            (.ok (), h, a)

def stopFeed (h : Host) (a : Adapter) (feed : Feed) : Except Failure Unit × Host × Adapter :=
  if a.feeds.count = 0 then (.ok (), h, a)
  else
    let slot := a.feeds.streaming.filter fun slot => slot < a.slots.length
    let filters := slot.any fun slot => (a.slots[slot]?).any (·.filtering.isHardware)
    let h := if filters then (h.perform (.pidFilter a.id feed.index feed.pid false)).2 else h
    let a := a.watch feed.pid false
    let a := { a with feeds := { a.feeds with count := a.feeds.count - 1 } }
    let (h, a) := setGate h a a.feeds.count
    if 0 < a.feeds.count then (.ok (), h, a)
    else
      match slot with
      | none => (.ok (), h, a)
      | some slot =>
        let a := { a with feeds := { a.feeds with streaming := none } }
        let (h, a) := stopStream h a slot
        match h.perform (.streaming a.id false) with
        | (.error e, h) => (.error (.streamingControl false e), h, a)
        | (.ok (), h) => (.ok (), h, a)

def select (a : Adapter) (slot : Nat) : Except Failure Adapter :=
  match a.feeds.streaming.filter (· != slot) with
  | some busy => .error (.frontendBusy a.id busy a.feeds.count)
  | none => .ok { a with feeds := { a.feeds with active := some slot } }

/-- A slot that falls asleep is active no more and its stream stops. Its feeds stay counted. -/
def deselect (h : Host) (a : Adapter) (slot : Nat) : Host × Adapter :=
  let a := if a.feeds.active = some slot then
      { a with feeds := { a.feeds with active := none } }
    else a
  if a.feeds.streaming = some slot then
    let (h, a) := stopStream h a slot
    let a := { a with feeds := { a.feeds with streaming := none } }
    ((h.perform (.streaming a.id false)).2, a)
  else (h, a)

end Adapter

end DvbReceiver
