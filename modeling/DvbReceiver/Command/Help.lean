import DvbReceiver.Command.Setting

set_option autoImplicit false

namespace DvbReceiver.Command

inductive Action where
  | ids
  | simulate
  deriving DecidableEq, Repr

namespace Action

def all : List Action :=
  [.ids, .simulate]

def name : Action → String
  | .ids => "ids"
  | .simulate => "simulate"

def settings : Action → List Setting
  | .ids => []
  | .simulate => Setting.all

def flags (action : Action) : List Flag :=
  .help :: action.settings.map .setting

def purpose : Action → String
  | .ids => "Print the supported cold/warm USB ids"
  | .simulate => "Bring up a simulated receiver on the software bus and stream from it"

end Action

def Setting.purpose : Setting → String
  | .adapters => "Number of adapters (1 or 2)"
  | .pids => "PIDs to carry and feed (decimal or 0x-prefixed hex)"
  | .durationMs => "How long to stream, in milliseconds"
  | .isoc => "Use isochronous instead of bulk transfers"
  | .isoErrorEvery => "Fail every n-th isochronous frame"
  | .pidFilter => "Hardware PID filter capability of the simulated receiver"
  | .speed => "Reported link speed"

def Setting.usual? (s : Setting) : Option String :=
  let usual : Simulation.Options := {}
  match s with
  | .adapters => some (toString usual.adapters)
  | .pids => some (",".intercalate (usual.pids.map fun pid => "0x" ++ Number.hex pid))
  | .durationMs => some (toString usual.milliseconds)
  | .isoc => none
  | .isoErrorEvery => none
  | .pidFilter => (filterChoices.find? (·.2 == usual.filter)).map (·.1)
  | .speed => (speedChoices.find? (·.2 == usual.speed)).map (·.1)

def Setting.choices : Setting → List String
  | .pidFilter => filterChoices.map (·.1)
  | .speed => speedChoices.map (·.1)
  | _ => []

def Setting.notes (s : Setting) : String :=
  let usual := match s.usual? with
    | none => ""
    | some value => " [default: " ++ value ++ "]"
  let choices := match s.choices with
    | [] => ""
    | choices => " [possible values: " ++ ", ".intercalate choices ++ "]"
  usual ++ choices

def Setting.help (s : Setting) : List String :=
  ["      " ++ s.usage, "          " ++ s.purpose ++ s.notes]

namespace Action

def help (action : Action) : List String :=
  let head := [action.purpose, ""]
  match action.settings with
  | [] => head ++ ["Usage: dvbusb " ++ action.name, "", "Options:", "  -h, --help  Print help"]
  | settings =>
    head ++ ["Usage: dvbusb " ++ action.name ++ " [OPTIONS]", "", "Options:"] ++
      settings.flatMap Setting.help ++ ["  -h, --help", "          Print help"]

end Action

end DvbReceiver.Command
