import DvbReceiver.Host
import DvbReceiver.Pool

set_option autoImplicit false

namespace DvbReceiver

structure StreamStats where
  completed : Nat := 0
  bytesDelivered : Nat := 0
  frameErrors : Nat := 0
  transportErrors : Nat := 0
  resubmitFailures : Nat := 0
  deriving DecidableEq, Repr

def StreamStats.add (stats : StreamStats) (u : Urb) : StreamStats :=
  { stats with
    completed := stats.completed + 1
    bytesDelivered := stats.bytesDelivered + u.slices.flatten.length
    frameErrors := stats.frameErrors + u.frameErrors
    transportErrors := stats.transportErrors + if u.status.isError then 1 else 0 }

structure Lane where
  sink : String
  /-- Set while the stream is stopped: requests that come back are not queued again. -/
  stopping : Bool := false
  /-- The requests that are not with the bus, each at its own index. -/
  parked : List (Option Urb)
  deriving DecidableEq, Repr

structure Stream where
  id : Nat
  sink : Option String := none
  layout : Option Layout := none
  lane : Option Lane := none
  prepared : Nat := 0
  submitted : Nat := 0
  pool : Pool := {}
  stats : StreamStats := {}
  deriving DecidableEq, Repr

structure Flow where
  host : Host
  stream : Stream
  slices : List Bytes := []

namespace Stream

def isRunning (s : Stream) : Bool :=
  0 < s.submitted

def park (s : Stream) (u : Urb) : Stream :=
  { s with lane := s.lane.map fun lane =>
      { lane with parked := lane.parked.set u.key.index (some u) } }

def setStopping (s : Stream) (on : Bool) : Stream :=
  { s with lane := s.lane.map fun lane => { lane with stopping := on } }

def takeParked (s : Stream) (index : Nat) : Option Urb × Stream :=
  match s.lane with
  | none => (none, s)
  | some lane =>
    ((lane.parked[index]?).join,
      { s with lane := some { lane with parked := lane.parked.set index none } })

def record (s : Stream) : String :=
  Record.partly "DataStream"
    [("props", Record.option Layout.record s.layout),
      ("urbs_initialized", toString s.prepared), ("urbs_submitted", toString s.submitted)]

end Stream

namespace Flow

def passOn (f : Flow) (slices : List Bytes) : Flow :=
  { f with
    host := f.host.noteAll (slices.map (.delivered f.stream.id))
    slices := f.slices ++ slices }

def park (f : Flow) (u : Urb) : Flow :=
  { f with stream := f.stream.park u }

def deliver (f : Flow) (u : Urb) : Flow :=
  let f := f.passOn u.slices
  { f with stream := { f.stream with stats := f.stream.stats.add u } }

def requeue (f : Flow) (u : Urb) : Option Urb × Flow :=
  if f.stream.lane.any (·.stopping) then (some u, f)
  else
    match f.host.submit u with
    | (none, host) => (none, { f with host })
    | (some _, host) =>
      let stats := { f.stream.stats with
        resubmitFailures := f.stream.stats.resubmitFailures + 1 }
      (some u, { f with host, stream := { f.stream with stats } })

/-- Takes back a request from the bus. Its data goes to the sink and the request to the bus again,
unless it ended for good or the stream is being stopped. -/
def complete (f : Flow) (u : Urb) : Flow :=
  let f := { f with host := f.host.note (.returned u) }
  if f.stream.lane.isNone then f
  -- Such a request is parked as the bus left it, data and frames untouched.
  else if u.status.isTerminal then f.park u
  else
    match (f.deliver u).requeue u.settled with
    | (none, f) => f
    | (some u, f) => f.park u

def cancel (f : Flow) (index : Nat) : Flow :=
  let (urb, host) := f.host.cancel ⟨f.stream.id, index⟩
  let f := { f with host }
  match urb with
  | none => f
  | some u => f.complete u

def cancelFrom : (count index : Nat) → Flow → Flow
  | 0, _, f => f
  | count + 1, index, f => cancelFrom count (index + 1) (f.cancel index)

def stop (f : Flow) : Flow :=
  -- From here on whatever comes back stays parked, also what was not cancelled as asked.
  let f := { f with stream := f.stream.setStopping true }
  let f := if f.stream.isRunning && f.stream.lane.isSome then cancelFrom f.stream.prepared 0 f
    else f
  { f with stream := { f.stream with submitted := 0 } }

def submitFrom : (count index : Nat) → Flow → Except Failure Unit × Flow
  | 0, _, f => (.ok (), f)
  | count + 1, index, f =>
    match f.stream.takeParked index with
    | (none, _) => (.error (.transfer index "urb still owned by the bus"), f.stop)
    | (some u, stream) =>
      match f.host.submit u with
      | (some reason, host) =>
        (.error (.transfer index reason), ({ f with host, stream }.park u).stop)
      | (none, host) =>
        submitFrom count (index + 1)
          { f with host, stream := { stream with submitted := index + 1 } }

/-- Hands all requests to the bus, or none of them. -/
def start (f : Flow) : Except Failure Unit × Flow :=
  if f.stream.lane.isNone then (.ok (), f)
  else if f.stream.isRunning then (.error .streamRunning, f)
  else
    let f := { f with stream := f.stream.setStopping false }
    submitFrom f.stream.prepared 0 f

/-- Gets buffers and requests for `layout`. A halt that cannot be cleared is no obstacle. -/
def prepare (f : Flow) (layout : Layout) : Except Failure Unit × Flow :=
  if 0 < f.stream.prepared then (.error .streamPrepared, f)
  else
    match f.stream.sink with
    | none => (.error .streamWithoutSink, f)
    | some sink =>
      match layout.problem? with
      | some problem => (.error (.layout problem), f)
      | none =>
        let (_, bus) := f.host.bus.clearHalt layout.pipe
        -- A layout is for so few transfers that there is always room for a list of them.
        match f.stream.pool.allocate bus layout.count layout.bufferSize with
        | (.error e, pool, bus) =>
          (.error e, { f with host := { f.host with bus }, stream := { f.stream with pool } })
        | (.ok buffers, pool, bus) =>
          let urbs := buffers.zipIdx.map fun (buffer, index) =>
            some (Urb.ofLayout ⟨f.stream.id, index⟩ layout buffer)
          let stream := { f.stream with
            layout := some layout
            lane := some { sink, parked := urbs }
            prepared := layout.count
            submitted := 0
            pool }
          (.ok (), { f with host := { f.host with bus }, stream })

def release (f : Flow) : Flow :=
  let f := f.stop
  match f.stream.lane with
  | none => { f with stream := { f.stream with prepared := 0, layout := none } }
  | some lane =>
    let buffers := (lane.parked.filterMap id).map (·.buffer)
    let (pool, bus) := f.stream.pool.release f.host.bus buffers
    { f with
      host := { f.host with bus }
      stream := { f.stream with lane := none, prepared := 0, layout := none, pool } }

end Flow

end DvbReceiver
