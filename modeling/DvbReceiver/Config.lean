import DvbReceiver.Text.Blank
import DvbReceiver.Text.Utf8

set_option autoImplicit false

namespace DvbReceiver

structure Config where
  forceFilter : Bool := false
  disableRemote : Bool := false
  firmwareDirectory : Option String := none
  /-- Which log lines are to be let through. Left out, there are none below warnings. -/
  logFilter : Option Bytes := none
  deriving DecidableEq, Repr

namespace Config

def isYes (text : String) : Bool :=
  ["1", "y", "yes", "true", "on"].contains
    (String.ofList ((Text.trim text.toList).map Char.toLower))

/-- A value that is no text is as good as none. -/
def flag (value : Option Bytes) : Bool :=
  match value.bind Text.utf8? with
  | none => false
  | some text => isYes text

def ofEnvironment (lookup : String → Option Bytes) : Config where
  forceFilter := flag (lookup "DVBUSB_FORCE_PID_FILTER")
  disableRemote := flag (lookup "DVBUSB_DISABLE_RC")
  firmwareDirectory := (lookup "DVBUSB_FIRMWARE_DIR").map Text.lossy
  logFilter := lookup "RUST_LOG"

def firmwareDirectories (c : Config) : List String :=
  c.firmwareDirectory.toList ++ ["/lib/firmware/updates", "/lib/firmware"]

end Config

end DvbReceiver
