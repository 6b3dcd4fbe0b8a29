import DvbReceiver.Bytes

set_option autoImplicit false

namespace DvbReceiver.Text

def utf8? (bytes : Bytes) : Option String :=
  String.fromUTF8? (ByteArray.mk bytes.toArray)

def continues (b : UInt8) : Bool :=
  0x80 ≤ b && b < 0xC0

/-- How many bytes at the front belong together: a character, or as much of one as is there. -/
def chunkLength : Bytes → Nat
  | [] => 0
  | b :: rest =>
    let after (first : UInt8 → Bool) (more : Nat) : Nat :=
      match rest with
      | c :: tail =>
        if first c then 2 + min more ((tail.take more).takeWhile continues).length else 1
      | [] => 1
    -- No second byte goes with an overlong form, a surrogate or a value above U+10FFFF.
    if b < 0xC2 then 1
    else if b < 0xE0 then after continues 0
    else if b < 0xF0 then
      after (fun c => continues c && (b != 0xE0 || 0xA0 ≤ c) && (b != 0xED || c < 0xA0)) 1
    else if b < 0xF5 then
      after (fun c => continues c && (b != 0xF0 || 0x90 ≤ c) && (b != 0xF4 || c < 0x90)) 2
    else 1

def lossyFrom : Nat → Bytes → List Char
  | 0, _ => []
  | _, [] => []
  | fuel + 1, bytes =>
    let length := max 1 (chunkLength bytes)
    ((utf8? (bytes.take length)).getD "\uFFFD").toList ++ lossyFrom fuel (bytes.drop length)

def lossy (bytes : Bytes) : String :=
  String.ofList (lossyFrom bytes.length bytes)

end DvbReceiver.Text
