import DvbReceiver.Demux
import DvbReceiver.Filtering
import DvbReceiver.Stream

set_option autoImplicit false

namespace DvbReceiver.Simulation

inductive Line where
  | ready (product : String) (adapters : Nat)
  | feeding (adapter feeds : Nat) (filtering : Option Filtering)
  | received (adapter : Nat) (stats : StreamStats)
  | watched (pid : Nat) (count : PidCount)
  | lost (chunks bytes : Nat)
  | bus (completions allocations frees : Nat)
  deriving DecidableEq, Repr

def Line.text : Line → String
  | .ready product adapters => product ++ " ready, " ++ toString adapters ++ " adapter(s)"
  | .feeding adapter feeds filtering =>
    "adapter " ++ toString adapter ++ ": " ++ toString feeds ++ " feed(s), filtering " ++
      Record.option Filtering.record filtering
  | .received adapter stats =>
    "adapter " ++ toString adapter ++ ": " ++ toString stats.completed ++ " transfers, " ++
      toString stats.bytesDelivered ++ " bytes, " ++ toString stats.frameErrors ++
      " frame errors, " ++ toString stats.transportErrors ++ " transport errors"
  | .watched pid count =>
    "    pid 0x" ++ Number.hexPadded 4 pid ++ ": " ++ toString count.packets ++ " packets, " ++
      toString count.discontinuities ++ " continuity errors"
  | .lost chunks bytes =>
    "    dropped " ++ toString chunks ++ " chunks, skipped " ++ toString bytes ++
      " bytes resyncing"
  | .bus completions allocations frees =>
    "bus: " ++ toString completions ++ " completions, " ++ toString allocations ++
      " allocations, " ++ toString frees ++ " frees"

end DvbReceiver.Simulation
