import DvbReceiver.Hook
import DvbReceiver.Simulation.Fault

set_option autoImplicit false

namespace DvbReceiver.Simulation

structure Receiver where
  properties : Properties
  hasI2c : Bool := false
  faults : List Fault := []
  deriving DecidableEq, Repr

namespace Receiver

def afterFault (r : Receiver) (fault : Fault) (reason : String) : HookOutcome :=
  if r.faults.contains fault then .failed (.device reason) else .done

def answer (r : Receiver) : Hook → HookOutcome
  | .power true => r.afterFault .powerOn "power on failed"
  | .downloadFirmware _ => r.afterFault .firmware "device rejected the image"
  | .frontendAttach a s =>
    match r.afterFault (.attach a s) "demodulator did not answer" with
    | .done => if r.faults.contains (.noFrontend a s) then .absent else .done
    | failed => failed
  | .streaming _ true => r.afterFault .streamingOn "streaming on failed"
  | .pidFilterControl _ _ => r.afterFault .pidFilterControl "pid filter control failed"
  | _ => .done

def identify (loaded : Bool) (_ : UsbId) (found : Option Identified) :
    Except Failure (Option Identified) :=
  .ok <| found.map fun i =>
    if i.cold && i.product.warmIds.isEmpty && loaded then { i with cold := false } else i

def frontendName (adapter slot : Nat) : String :=
  "Simulated DVB-T demod " ++ toString adapter ++ "." ++ toString slot

def driver (r : Receiver) : Driver where
  properties := r.properties
  answer _ := r.answer
  hasI2c := r.hasI2c
  frontendName := frontendName
  identify := identify

def record (r : Receiver) : String :=
  Record.partly "SimulatedDriver"
    [("props", r.properties.record), ("faults", Record.set (r.faults.map Fault.record))]

end Receiver

end DvbReceiver.Simulation
