import DvbReceiver.Text.Record

set_option autoImplicit false

namespace DvbReceiver

inductive Place where
  | adapter (adapter : Nat)
  | demux (adapter : Nat)
  | net (adapter : Nat)
  | frontend (adapter slot : Nat)
  deriving DecidableEq, Repr

def Place.record : Place → String
  | .adapter a => Record.applied "Adapter" [toString a]
  | .demux a => Record.applied "Demux" [toString a]
  | .net a => Record.applied "Net" [toString a]
  | .frontend a s => Record.applied "Frontend" [toString a, toString s]

end DvbReceiver
