import DvbReceiver.Text.Record
import DvbReceiver.Usb.Pipe

set_option autoImplicit false

namespace DvbReceiver

inductive FilterSupport where
  | none
  | required (entries : Nat)
  | optional (entries : Nat)
  deriving DecidableEq, Repr

def FilterSupport.entries? : FilterSupport → Option Nat
  | .none => Option.none
  | .required entries | .optional entries => some entries

def FilterSupport.record : FilterSupport → String
  | .none => "None"
  | .required entries => Record.closed "Required" [("count", toString entries)]
  | .optional entries => Record.closed "Optional" [("count", toString entries)]

inductive Filtering where
  | hardware (entries : Nat)
  | software
  deriving DecidableEq, Repr

namespace Filtering

def softwareFeeds : Nat := 255

/-- An optional filter is used where the full stream does not fit the link, or when forced. -/
def choose (support : FilterSupport) (speed : Speed) (forced : Bool) : Filtering :=
  match support with
  | .none => .software
  | .required entries => .hardware entries
  | .optional entries => if forced || speed == .full then .hardware entries else .software

def maxFeeds : Filtering → Nat
  | .hardware entries => entries
  | .software => softwareFeeds

def isHardware : Filtering → Bool
  | .hardware _ => true
  | .software => false

def record : Filtering → String
  | .hardware entries => Record.closed "Hardware" [("table_size", toString entries)]
  | .software => "Software"

end Filtering

end DvbReceiver
