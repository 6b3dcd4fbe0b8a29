import DvbReceiver.Hook
import DvbReceiver.Registry
import DvbReceiver.Usb.Bus

set_option autoImplicit false

namespace DvbReceiver

inductive Event where
  | called (hook : Hook) (outcome : HookOutcome)
  | attached (adapter slot : Nat)
  | submitted (urb : Urb)
  | refused (urb : Urb)
  | returned (urb : Urb)
  | delivered (stream : Nat) (data : Bytes)
  | gated (adapter feeds : Nat)
  | offered (adapter : Nat) (data : Bytes)
  deriving DecidableEq, Repr

structure Host where
  bus : Bus
  driver : Driver
  registry : Registry
  calls : Nat := 0
  firmwareLoaded : Bool := false
  /-- The latest event first. -/
  trace : List Event := []

namespace Host

def note (h : Host) (e : Event) : Host :=
  { h with trace := e :: h.trace }

def noteAll (h : Host) (events : List Event) : Host :=
  events.foldl note h

def call (h : Host) (hook : Hook) : HookOutcome × Host :=
  let outcome := h.driver.answer h.calls hook
  (outcome, { h.note (.called hook outcome) with calls := h.calls + 1 })

def perform (h : Host) (hook : Hook) : Except Failure Unit × Host :=
  let (outcome, h) := h.call hook
  (outcome.toExcept, h)

def submit (h : Host) (u : Urb) : Option String × Host :=
  match h.bus.submit u with
  | (none, bus) => (none, { h with bus }.note (.submitted u))
  | (some reason, bus) => (some reason, { h with bus }.note (.refused u))

def cancel (h : Host) (key : UrbKey) : Option Urb × Host :=
  let (urb, bus) := h.bus.cancel key
  (urb, { h with bus })

end Host

end DvbReceiver
