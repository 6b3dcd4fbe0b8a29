import DvbReceiver.Simulation.Receiver

set_option autoImplicit false

namespace DvbReceiver.Bench

inductive Injection where
  | powerOff
  | streamingOff
  | pidFilter
  | frontendOn
  | frontendOff
  | tuner
  | demodInit
  | demodSleep
  | i2cError
  | i2cShort
  deriving DecidableEq, Repr

namespace Injection

def name : Injection → String
  | .powerOff => "power_off"
  | .streamingOff => "streaming_off"
  | .pidFilter => "pid_filter"
  | .frontendOn => "frontend_on"
  | .frontendOff => "frontend_off"
  | .tuner => "tuner"
  | .demodInit => "demod_init"
  | .demodSleep => "demod_sleep"
  | .i2cError => "i2c_error"
  | .i2cShort => "i2c_short"

def against? : Hook → Option Injection
  | .power false => some .powerOff
  | .streaming _ false => some .streamingOff
  | .pidFilter .. => some .pidFilter
  | .frontendControl _ _ on => some (if on then .frontendOn else .frontendOff)
  | .tunerAttach .. => some .tuner
  | .demodInit .. => some .demodInit
  | .demodSleep .. => some .demodSleep
  | .i2cTransfer _ => some .i2cError
  | _ => none

def inject (injections : List Injection) (hook : Hook) (outcome : HookOutcome) : HookOutcome :=
  match outcome with
  | .failed e => .failed e
  | _ =>
    match (against? hook).filter injections.contains with
    | some injection => .failed (.device ("injected " ++ injection.name))
    | none =>
      match hook with
      | .i2cTransfer messages =>
        if injections.contains .i2cShort then .partly (messages - 1) else outcome
      | _ => outcome

end Injection

inductive Verdict where
  | unknown
  | refused
  | product (identified : Identified)
  deriving DecidableEq, Repr

def Verdict.result : Verdict → Except Failure (Option Identified)
  | .unknown => .ok none
  | .refused => .error (.device "injected identify")
  | .product identified => .ok (some identified)

structure Subject where
  receiver : Simulation.Receiver
  injections : List Injection := []
  verdict : Option Verdict := none
  deriving DecidableEq, Repr

def Subject.driver (s : Subject) : Driver :=
  { s.receiver.driver with
    answer := fun _ hook => Injection.inject s.injections hook (s.receiver.answer hook)
    identify := fun loaded id found =>
      match s.verdict with
      | some verdict => verdict.result
      | none => Simulation.Receiver.identify loaded id found }

def plainDriver (properties : Properties) : Driver where
  properties
  answer _ hook := match hook with
    | .downloadFirmware _ => .failed (.device "driver does not support firmware download")
    | _ => .done
  hasI2c := false
  frontendName adapter slot := "plain " ++ toString adapter ++ "." ++ toString slot
  identify _ _ found := .ok found

end DvbReceiver.Bench
