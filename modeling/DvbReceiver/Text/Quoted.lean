import DvbReceiver.Text.GraphemeExtend
import DvbReceiver.Text.Number
import DvbReceiver.Text.Unprintable

set_option autoImplicit false

namespace DvbReceiver.Text

def inRanges (ranges : List (Nat × Nat)) (n : Nat) : Bool :=
  ranges.any fun (first, last) => first ≤ n && n ≤ last

def isHalfwidthMark (c : Char) : Bool :=
  c == '\uFF9E' || c == '\uFF9F'

def needsCode (c : Char) : Bool :=
  (inRanges graphemeExtendRanges c.toNat && !isHalfwidthMark c) ||
    inRanges unprintableRanges c.toNat

def escape (c : Char) : List Char :=
  match c.toNat with
  | 0 => ['\\', '0']
  | 9 => ['\\', 't']
  | 10 => ['\\', 'n']
  | 13 => ['\\', 'r']
  | 34 => ['\\', c]
  | 92 => ['\\', c]
  | n =>
    if 32 ≤ n ∧ n < 127 then [c]
    else if needsCode c then "\\u\x7b".toList ++ Nat.toDigits 16 n ++ ['}']
    else [c]

def quote (text : String) : String :=
  String.ofList ('"' :: text.toList.flatMap escape ++ ['"'])

end DvbReceiver.Text
