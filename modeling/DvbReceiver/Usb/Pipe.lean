import DvbReceiver.Text.Record

set_option autoImplicit false

namespace DvbReceiver

inductive Speed where
  | full
  | high
  | super
  deriving DecidableEq, Repr

inductive PipeKind where
  | bulk
  | isoc
  deriving DecidableEq, Repr

structure Pipe where
  endpoint : Nat
  kind : PipeKind
  deriving DecidableEq, Repr

/-- The endpoint number with the bit for the direction, device to host. -/
def Pipe.address (p : Pipe) : Nat :=
  128 + p.endpoint % 128

def PipeKind.record : PipeKind → String
  | .bulk => "Bulk"
  | .isoc => "Isoc"

def Pipe.record (p : Pipe) : String :=
  Record.closed "Pipe" [("endpoint", toString p.endpoint), ("kind", p.kind.record)]

end DvbReceiver
