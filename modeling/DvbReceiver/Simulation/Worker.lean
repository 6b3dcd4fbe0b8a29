import DvbReceiver.Simulation.Generator

set_option autoImplicit false

namespace DvbReceiver.Simulation

structure Worker where
  bus : Bus
  generator : Generator
  completions : Nat := 0
  onHold : Bool := false
  /-- The request that is served but not returned while the bus is held. -/
  held : Option Urb := none
  broken : Bool := false

namespace Worker

def serveQueue (w : Worker) : List Urb → List Urb × Worker
  | [] => ([], { w with bus := { w.bus with queue := [] } })
  | u :: rest =>
    if w.held.isSome || w.broken then ([], { w with bus := { w.bus with queue := u :: rest } })
    else
      match w.generator.serve u with
      | none => serveQueue { w with broken := true } rest
      | some (u, generator) =>
        -- What is held back counts as completed all the same.
        let w := { w with generator, completions := w.completions + 1 }
        if w.onHold then serveQueue { w with held := some u } rest
        else
          let (returned, w) := serveQueue w rest
          (u :: returned, w)

def serve (w : Worker) : List Urb × Worker :=
  w.serveQueue w.bus.queue

def allocate (w : Worker) (size : Nat) : Except Failure Buffer × Worker :=
  let (result, bus) := w.bus.allocate size
  (result, { w with bus })

def free (w : Worker) (buffer : Buffer) : Worker :=
  { w with bus := w.bus.free buffer }

def submit (w : Worker) (u : Urb) : List Urb × Worker :=
  let (_, bus) := w.bus.submit u
  { w with bus }.serve

def cancel (w : Worker) (key : UrbKey) : List Urb × Worker :=
  let (returned, bus) := w.bus.cancel key
  (returned.toList, { w with bus })

def hold (w : Worker) : Worker :=
  { w with onHold := true }

def release (w : Worker) : List Urb × Worker :=
  let (returned, rest) := { w with onHold := false, held := none }.serve
  (w.held.toList ++ returned, rest)

/-- The queue is given back unserved, and what was held back after it. -/
def shutDown (w : Worker) : List Urb :=
  w.bus.queue.map (·.fill (.result .shutdown 0)) ++ w.held.toList

end Worker

end DvbReceiver.Simulation
