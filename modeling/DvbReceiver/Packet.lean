import DvbReceiver.Bytes

set_option autoImplicit false

namespace DvbReceiver.Packet

def size : Nat := 188

def syncByte : UInt8 := 0x47

def maxPid : Nat := 0x1FFF

def nullPid : Nat := 0x1FFF

def pid? : Bytes → Option Nat
  | sync :: high :: low :: _ :: _ =>
    if sync = syncByte then some (high.toNat % 32 * 256 + low.toNat) else none
  | _ => none

def counter? : Bytes → Option Nat
  | sync :: _ :: _ :: flags :: _ => if sync = syncByte then some (flags.toNat % 16) else none
  | _ => none

/-- Bit 0 of the adaptation field control; the sync byte plays no part in it. -/
def hasPayload : Bytes → Bool
  | _ :: _ :: _ :: flags :: _ => flags.toNat / 16 % 2 == 1
  | _ => false

def make (pid counter : Nat) : Bytes :=
  [syncByte, UInt8.ofNat (pid / 256 % 32), UInt8.ofNat (pid % 256),
    UInt8.ofNat (16 + counter % 16)] ++ List.replicate 184 0xFF

def write? (out : Bytes) (pid counter : Nat) : Option Bytes :=
  if out.length < size then none else some (make pid counter ++ out.drop size)

theorem length_make (pid counter : Nat) : (make pid counter).length = size := by
  simp only [make, size, List.length_append, List.length_replicate, List.length_cons,
    List.length_nil]

theorem pid?_make (pid counter : Nat) (rest : Bytes) :
    pid? (make pid counter ++ rest) = some (pid % 8192) := by
  simp only [make, List.cons_append, pid?, UInt8.toNat_ofNat']
  simp
  omega

theorem counter?_make (pid counter : Nat) (rest : Bytes) :
    counter? (make pid counter ++ rest) = some (counter % 16) := by
  simp only [make, List.cons_append, counter?, UInt8.toNat_ofNat']
  simp

theorem hasPayload_make (pid counter : Nat) (rest : Bytes) :
    hasPayload (make pid counter ++ rest) = true := by
  simp only [make, List.cons_append, hasPayload, UInt8.toNat_ofNat']
  simp
  omega

end DvbReceiver.Packet
