import DvbReceiver.Usb.Id

set_option autoImplicit false

namespace DvbReceiver

structure Product where
  name : String
  coldIds : List UsbId
  warmIds : List UsbId
  deriving DecidableEq, Repr

def Product.isCold (p : Product) (id : UsbId) : Bool :=
  p.coldIds.contains id

def Product.isWarm (p : Product) (id : UsbId) : Bool :=
  p.warmIds.contains id

structure Identified where
  product : Product
  cold : Bool
  deriving DecidableEq, Repr

/-- The first product that lists `id`; its cold ids come before its warm ones. -/
def identify? : List Product → UsbId → Option Identified
  | [], _ => none
  | p :: rest, id =>
    if p.isCold id then some ⟨p, true⟩
    else if p.isWarm id then some ⟨p, false⟩
    else identify? rest id

def fusionHdtv5 : Product where
  name := "DViCO FusionHDTV5 USB Gold"
  coldIds := [⟨0x0FE9, 0xD500⟩]
  warmIds := [⟨0x0FE9, 0xD501⟩]

def knownProducts : List Product :=
  [ { name := "DiBcom STK7700P reference design"
      coldIds := [⟨0x10B8, 0x1E14⟩]
      warmIds := [] },
    { name := "Hauppauge WinTV-NOVA-T usb2"
      coldIds := [⟨0x2040, 0x9300⟩]
      warmIds := [⟨0x2040, 0x9301⟩] },
    fusionHdtv5,
    { name := "Afatech AF9015 DVB-T USB2.0 stick"
      coldIds := []
      warmIds := [⟨0x15A4, 0x9016⟩] } ]

end DvbReceiver
