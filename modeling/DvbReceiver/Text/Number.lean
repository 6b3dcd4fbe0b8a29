set_option autoImplicit false

namespace DvbReceiver.Number

inductive Problem where
  | empty
  | badDigit
  | tooLarge
  deriving DecidableEq, Repr

def Problem.message : Problem → String
  | .empty => "cannot parse integer from empty string"
  | .badDigit => "invalid digit found in string"
  | .tooLarge => "number too large to fit in target type"

def digit? (radix : Nat) (c : Char) : Option Nat :=
  let value :=
    if '0' ≤ c ∧ c ≤ '9' then c.toNat - 48
    else if 'a' ≤ c ∧ c ≤ 'z' then c.toNat - 87
    else if 'A' ≤ c ∧ c ≤ 'Z' then c.toNat - 55
    else radix
  if value < radix then some value else none

/-- Reads on from `value`, stopping at the first bad digit or at the first value above `limit`. -/
def readDigits (radix limit : Nat) : Nat → List Char → Except Problem Nat
  | value, [] => .ok value
  | value, c :: rest =>
    -- A bad digit is found before the value is found too large.
    match digit? radix c with
    | none => .error .badDigit
    | some d =>
      let next := value * radix + d
      if limit < next then .error .tooLarge else readDigits radix limit next rest

/-- One optional plus sign and at least one digit; a minus sign is a bad digit. -/
def read (radix limit : Nat) : List Char → Except Problem Nat
  | [] => .error .empty
  | ['+'] => .error .badDigit
  | '+' :: rest => readDigits radix limit 0 rest
  | text => readDigits radix limit 0 text

def hex (n : Nat) : String :=
  String.ofList (Nat.toDigits 16 n)

def hexPadded (width n : Nat) : String :=
  let digits := Nat.toDigits 16 n
  String.ofList (List.replicate (width - digits.length) '0' ++ digits)

end DvbReceiver.Number
