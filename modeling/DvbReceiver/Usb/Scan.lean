import DvbReceiver.Failure
import DvbReceiver.Files.System
import DvbReceiver.Text.Blank
import DvbReceiver.Text.Utf8
import DvbReceiver.Usb.Product

set_option autoImplicit false

namespace DvbReceiver.Usb

structure Attached where
  path : String
  id : UsbId
  bus : Nat
  device : Nat
  known : Option Identified
  deriving DecidableEq, Repr

def attribute? (fs : FileSystem) (path : String) : Option (List Char) :=
  match fs.read path with
  | .error _ => none
  | .ok content => (Text.utf8? content).map fun text => Text.trim text.toList

def dropHexMarks : List Char → List Char
  | '0' :: 'x' :: rest => dropHexMarks rest
  | text => text

def hexAttribute? (fs : FileSystem) (path : String) : Option Nat :=
  (attribute? fs path).bind fun text => (Number.read 16 0xFFFF (dropHexMarks text)).toOption

def decimalAttribute? (fs : FileSystem) (path : String) : Option Nat :=
  (attribute? fs path).bind fun text => (Number.read 10 0xFFFFFFFF text).toOption

/-- A device without readable ids is passed over; a number that cannot be read counts as 0. -/
def attached? (fs : FileSystem) (path : String) : Option Attached :=
  let hex (name : String) := hexAttribute? fs (Path.join path name)
  let decimal (name : String) := (decimalAttribute? fs (Path.join path name)).getD 0
  match hex "idVendor", hex "idProduct" with
  | some vendor, some product =>
    some
      { path
        id := ⟨vendor, product⟩
        bus := decimal "busnum"
        device := decimal "devnum"
        known := identify? knownProducts ⟨vendor, product⟩ }
  | _, _ => none

/-- By bus and device number. That devices which agree in both go by their paths is a choice made
here: the directory may list them in any order, and a stable sort would leave them in that one. -/
def Attached.precedes (a b : Attached) : Bool :=
  a.bus < b.bus || a.bus == b.bus &&
    (a.device < b.device || a.device == b.device && a.path ≤ b.path)

def scan (fs : FileSystem) (root : String) : Except Failure (List Attached) :=
  match fs.list root with
  | .error problem => .error (.file problem)
  | .ok names =>
    .ok ((names.filterMap fun name => attached? fs (Path.join root name)).mergeSort
      Attached.precedes)

end DvbReceiver.Usb
