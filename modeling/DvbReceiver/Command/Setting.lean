import DvbReceiver.Packet
import DvbReceiver.Simulation.Run
import DvbReceiver.Text.Terminal

set_option autoImplicit false

namespace DvbReceiver.Command

inductive Setting where
  | adapters
  | pids
  | durationMs
  | isoc
  | isoErrorEvery
  | pidFilter
  | speed
  deriving DecidableEq, Repr

namespace Setting

def all : List Setting :=
  [.adapters, .pids, .durationMs, .isoc, .isoErrorEvery, .pidFilter, .speed]

def name : Setting → String
  | .adapters => "--adapters"
  | .pids => "--pids"
  | .durationMs => "--duration-ms"
  | .isoc => "--isoc"
  | .isoErrorEvery => "--iso-error-every"
  | .pidFilter => "--pid-filter"
  | .speed => "--speed"

def usage : Setting → String
  | .adapters => "--adapters <ADAPTERS>"
  | .pids => "--pids <PIDS>"
  | .durationMs => "--duration-ms <DURATION_MS>"
  | .isoc => "--isoc"
  | .isoErrorEvery => "--iso-error-every <ISO_ERROR_EVERY>"
  | .pidFilter => "--pid-filter <PID_FILTER>"
  | .speed => "--speed <SPEED>"

def mayRepeat (s : Setting) : Bool :=
  s == .pids

def takesValue (s : Setting) : Bool :=
  s != .isoc

end Setting

inductive Flag where
  | help
  | setting (setting : Setting)
  deriving DecidableEq, Repr

namespace Flag

def name : Flag → String
  | .help => "--help"
  | .setting s => s.name

def usage : Flag → String
  | .help => "--help"
  | .setting s => s.usage

end Flag

inductive Problem where
  | noCommand
  | unknownCommand (name : String)
  | unexpectedArgument (argument : String)
  | unexpectedValue (flag : Flag) (value : String)
  | missingValue (setting : Setting)
  | repeated (setting : Setting)
  | invalidChoice (setting : Setting) (value : String)
  | invalidValue (setting : Setting) (value reason : String)
  deriving DecidableEq, Repr

def refusal (before given behind : String) : List String :=
  ["error: " ++ before, given, behind ++ "\n\nFor more information, try '", "--help'."]

def Problem.pieces : Problem → List String
  | .noCommand => ["DVB-USB receiver CLI"]
  | .unknownCommand name => refusal "unrecognized subcommand '" name "'"
  | .unexpectedArgument argument => refusal "unexpected argument '" argument "' found"
  | .unexpectedValue flag value =>
    refusal "unexpected value '" value
      ("' for '" ++ flag.usage ++ "' found; no more were expected")
  | .missingValue setting =>
    refusal "a value is required for '" setting.usage "' but none was supplied"
  | .repeated setting =>
    refusal "the argument '" setting.usage "' cannot be used multiple times"
  | .invalidChoice setting value =>
    refusal "invalid value '" value ("' for '" ++ setting.usage ++ "'")
  | .invalidValue setting value reason =>
    refusal "invalid value '" value ("' for '" ++ setting.usage ++ "': " ++ reason)

/-- No piece can hide another from view: each of them is shown by itself. -/
def Problem.message (p : Problem) : String :=
  String.join (p.pieces.map Text.visible)

def maxSize : Nat := 0xFFFFFFFFFFFFFFFF

def readPid (text : String) : Except String Nat :=
  let value := match text.toList with
    | '0' :: 'x' :: digits => Number.read 16 0xFFFF digits
    | '0' :: 'X' :: digits => Number.read 16 0xFFFF digits
    | digits => Number.read 10 0xFFFF digits
  match value with
  | .error problem => .error (text ++ ": " ++ problem.message)
  | .ok pid =>
    if Packet.maxPid < pid then .error (text ++ ": PID above 0x" ++ Number.hex Packet.maxPid)
    else .ok pid

def readPids : List String → Except Problem (List Nat)
  | [] => .ok []
  | text :: rest =>
    match readPid text with
    | .error reason => .error (.invalidValue .pids text reason)
    | .ok pid => (readPids rest).map (pid :: ·)

def readSize (setting : Setting) (text : String) : Except Problem Nat :=
  match Number.read 10 maxSize text.toList with
  | .error problem => .error (.invalidValue setting text problem.message)
  | .ok n => .ok n

def readChoice {α : Type} (setting : Setting) (choices : List (String × α)) (text : String) :
    Except Problem α :=
  match choices.lookup text with
  | some choice => .ok choice
  | none =>
    if text.isEmpty then .error (.missingValue setting) else .error (.invalidChoice setting text)

def filterChoices : List (String × FilterSupport) :=
  [("none", .none), ("required", .required Simulation.Options.tableSize),
    ("optional", .optional Simulation.Options.tableSize)]

def speedChoices : List (String × Speed) :=
  [("full", .full), ("high", .high)]

end DvbReceiver.Command
