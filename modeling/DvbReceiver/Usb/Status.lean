import DvbReceiver.Text.Record

set_option autoImplicit false

namespace DvbReceiver

inductive Status where
  | ok
  | timeout
  | cancelled
  | unlinked
  | shutdown
  | noDevice
  | stall
  | overflow
  | error (errno : Int)
  deriving DecidableEq, Repr

namespace Status

def isTerminal : Status → Bool
  | .cancelled | .unlinked | .shutdown | .noDevice => true
  | _ => false

def isError : Status → Bool
  | .stall | .overflow | .error _ => true
  | _ => false

def text : Status → String
  | .ok => "ok"
  | .timeout => "timeout"
  | .cancelled => "cancelled"
  | .unlinked => "unlinked"
  | .shutdown => "shutdown"
  | .noDevice => "no device"
  | .stall => "stall"
  | .overflow => "overflow"
  | .error errno => "error " ++ toString errno

def record : Status → String
  | .ok => "Ok"
  | .timeout => "Timeout"
  | .cancelled => "Cancelled"
  | .unlinked => "Unlinked"
  | .shutdown => "Shutdown"
  | .noDevice => "NoDevice"
  | .stall => "Stall"
  | .overflow => "Overflow"
  | .error errno => Record.applied "Error" [toString errno]

end Status

end DvbReceiver
