import DvbReceiver.Files.Problem
import DvbReceiver.Layout
import DvbReceiver.Packet
import DvbReceiver.Registry.Place
import DvbReceiver.Text.Quoted
import DvbReceiver.Usb.Id

set_option autoImplicit false

namespace DvbReceiver

inductive Failure where
  | outOfMemory (requested : Nat)
  | transfer (index : Nat) (reason : String)
  | zeroLengthBuffer
  | streamPrepared
  | streamWithoutSink
  | streamRunning
  | layout (problem : LayoutProblem)
  | adapterCount (adapters : Nat)
  | frontendCount (adapter frontends : Nat)
  | slotLayout (adapter slot : Nat) (problem : LayoutProblem)
  | emptyFilterTable (adapter slot : Nat)
  | pidRange (pid : Nat)
  | noAdapter (adapter : Nat)
  | filterIndex (index size : Nat)
  | feedLimit (adapter feeds : Nat)
  | configuration (reason : String)
  | unknownDevice (id : UsbId)
  | noActiveFrontend (adapter : Nat)
  | frontendMissing (adapter slot : Nat)
  | frontendBusy (adapter slot feeds : Nat)
  | streamingControl (on : Bool) (cause : Failure)
  | filterControl (enabled : Bool) (cause : Failure)
  | registrationRefused (place : Place)
  | frontendRegistration (adapter : Nat) (cause : Failure)
  | shortI2cTransfer (bus : String) (handled requested : Nat)
  | device (reason : String)
  | firmwareUnnamed (product : String)
  | firmwareRejected (name : String) (cause : Failure)
  | firmwareName (name : String)
  | firmwareEmpty (name path : String)
  | firmwareFile (name path : String) (problem : FileProblem)
  | firmwareNotFound (name : String) (directories : List String)
  | firmware (name reason : String)
  | file (problem : FileProblem)
  deriving DecidableEq, Repr

namespace Failure

inductive Kind where
  | outOfMemory
  | transport
  | configuration
  | unknownDevice
  | device
  | firmware (name : String)
  | file
  deriving DecidableEq, Repr

def kind : Failure → Kind
  | .outOfMemory _ => .outOfMemory
  | .transfer .. => .transport
  | .zeroLengthBuffer | .streamPrepared | .streamWithoutSink | .streamRunning | .layout _
  | .adapterCount _ | .frontendCount .. | .slotLayout .. | .emptyFilterTable .. | .pidRange _
  | .noAdapter _ | .filterIndex .. | .feedLimit .. | .configuration _ => .configuration
  | .unknownDevice _ => .unknownDevice
  | .noActiveFrontend _ | .frontendMissing .. | .frontendBusy .. | .streamingControl ..
  | .filterControl .. | .registrationRefused _ | .frontendRegistration ..
  | .shortI2cTransfer .. | .device _ => .device
  | .firmwareUnnamed product => .firmware product
  | .firmwareRejected name _ | .firmwareName name | .firmwareEmpty name _
  | .firmwareFile name _ _ | .firmwareNotFound name _ | .firmware name _ => .firmware name
  | .file _ => .file

def heading : Failure → String
  | .outOfMemory _ => "Out of memory allocating "
  | .transfer index _ => "Transport error on transfer " ++ toString index ++ ": "
  | .unknownDevice _ => "No driver entry for USB device "
  | e =>
    match e.kind with
    | .configuration => "Invalid configuration: "
    | .firmware name => "Firmware " ++ name ++ ": "
    | .file => "I/O error: "
    | _ => "Device error: "

def onOff (on : Bool) : String :=
  if on then "on" else "off"

def message (e : Failure) : String :=
  e.heading ++
    match e with
    | .outOfMemory requested => toString requested ++ " bytes"
    | .transfer _ reason => reason
    | .zeroLengthBuffer => "zero-length coherent buffer"
    | .streamPrepared => "stream already initialized"
    | .streamWithoutSink => "stream has no completion sink"
    | .streamRunning => "stream already submitted"
    | .layout problem => problem.message
    | .adapterCount adapters => toString adapters ++ " adapters (1..=2 supported)"
    | .frontendCount adapter frontends =>
      "adapter " ++ toString adapter ++ ": " ++ toString frontends ++
        " frontends (1..=3 supported)"
    | .slotLayout adapter slot problem =>
      "adapter " ++ toString adapter ++ " frontend " ++ toString slot ++ ": " ++ problem.message
    | .emptyFilterTable adapter slot =>
      "adapter " ++ toString adapter ++ " frontend " ++ toString slot ++ ": empty pid filter table"
    | .pidRange pid => "pid 0x" ++ Number.hex pid ++ " out of range"
    | .noAdapter adapter => "no adapter " ++ toString adapter
    | .filterIndex index size =>
      "pid filter index " ++ toString index ++ " beyond table of " ++ toString size
    | .feedLimit adapter feeds =>
      "adapter " ++ toString adapter ++ ": all " ++ toString feeds ++ " feeds in use"
    | .configuration reason => reason
    | .unknownDevice id => id.text
    | .noActiveFrontend adapter => "adapter " ++ toString adapter ++ ": no active frontend"
    | .frontendMissing adapter slot =>
      "adapter " ++ toString adapter ++ ": frontend " ++ toString slot ++ " not initialized"
    | .frontendBusy adapter slot feeds =>
      "adapter " ++ toString adapter ++ ": frontend " ++ toString slot ++ " is streaming " ++
        toString feeds ++ " feeds"
    | .streamingControl on cause => "streaming control " ++ onOff on ++ ": " ++ cause.message
    | .filterControl enabled cause =>
      "pid filter control (" ++ onOff enabled ++ "): " ++ cause.message
    | .registrationRefused place => place.record ++ " registration refused"
    | .frontendRegistration adapter cause =>
      "adapter " ++ toString adapter ++ ": registering frontend 0 failed: " ++ cause.message
    | .shortI2cTransfer bus handled requested =>
      bus ++ ": i2c transfer completed " ++ toString handled ++ " of " ++ toString requested ++
        " messages"
    | .device reason => reason
    | .firmwareUnnamed _ => "cold device but the driver names no firmware"
    | .firmwareRejected _ cause => cause.message
    | .firmwareName _ => "invalid file name"
    | .firmwareEmpty _ path => path ++ " is empty"
    | .firmwareFile _ path problem => path ++ ": " ++ problem.message
    | .firmwareNotFound _ directories =>
      "not found in " ++ Record.list (directories.map Text.quote)
    | .firmware _ reason => reason
    | .file problem => problem.message

end Failure

end DvbReceiver
