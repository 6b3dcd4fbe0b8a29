import DvbReceiver.Proofs.Simulation.Limits

set_option autoImplicit false

namespace DvbReceiver

open Command

namespace Command

open Simulation (Options)

section Values

variable {text : String} {pid : Nat}

end Values

namespace Reading

variable {r r' : Reading} {setting : Setting} {action : Action}

end Reading

section Simulate

variable {o : Options} {config : Config}

def Roomy (o : Options) : Prop :=
  o.adapters * Options.adapterBytes < addressSpace

end Simulate

end Command

end DvbReceiver
