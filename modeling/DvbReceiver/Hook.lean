import DvbReceiver.Properties

set_option autoImplicit false

namespace DvbReceiver

inductive Hook where
  | power (on : Bool)
  | downloadFirmware (size : Nat)
  | frontendAttach (adapter slot : Nat)
  | tunerAttach (adapter slot : Nat)
  | streaming (adapter : Nat) (on : Bool)
  | pidFilter (adapter index pid : Nat) (on : Bool)
  | pidFilterControl (adapter : Nat) (enabled : Bool)
  | frontendControl (adapter slot : Nat) (on : Bool)
  | demodInit (adapter slot : Nat)
  | demodSleep (adapter slot : Nat)
  | demodDetach (adapter slot : Nat)
  | i2cTransfer (messages : Nat)
  deriving DecidableEq, Repr

inductive HookOutcome where
  | done
  | absent
  | partly (messages : Nat)
  | failed (cause : Failure)
  deriving DecidableEq, Repr

def HookOutcome.toExcept : HookOutcome → Except Failure Unit
  | .failed cause => .error cause
  | _ => .ok ()

/-- The answers of one family of devices. Calls are counted from 0. -/
structure Driver where
  properties : Properties
  answer : Nat → Hook → HookOutcome
  hasI2c : Bool
  frontendName : Nat → Nat → String
  /-- Has the last word on what `id` is; the flag tells whether firmware has been loaded. -/
  identify : (loaded : Bool) → (id : UsbId) → Option Identified → Except Failure (Option Identified)

end DvbReceiver
