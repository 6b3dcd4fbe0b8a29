import DvbReceiver.Text.Number
import DvbReceiver.Text.Record

set_option autoImplicit false

namespace DvbReceiver

structure UsbId where
  vendor : Nat
  product : Nat
  deriving DecidableEq, Repr

def UsbId.text (id : UsbId) : String :=
  Number.hexPadded 4 id.vendor ++ ":" ++ Number.hexPadded 4 id.product

def UsbId.record (id : UsbId) : String :=
  Record.closed "UsbDeviceId"
    [("vendor", toString id.vendor), ("product", toString id.product)]

end DvbReceiver
