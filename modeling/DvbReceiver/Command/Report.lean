import DvbReceiver.Command.Arguments

set_option autoImplicit false

namespace DvbReceiver.Command

inductive Line where
  | help (text : String)
  | product (name : String)
  | id (cold : Bool) (usbId : UsbId)
  | simulation (line : Simulation.Line)
  deriving DecidableEq, Repr

def Line.text : Line → String
  | .help text => text
  | .product name => name
  | .id cold usbId => "    " ++ (if cold then "cold " else "warm ") ++ usbId.text
  | .simulation line => line.text

structure Report where
  output : List Line
  complaint : Option String := none
  code : Nat := 0
  /-- Log lines may stand between those of the output. -/
  logging : Bool := false
  deriving DecidableEq, Repr

/-- Nothing has been put out yet when a list is made that there is no room for. -/
def Report.ofCrash : Crash → Report
  | .capacity => { output := [], complaint := some "\nthread panicked:\ncapacity overflow", code := 101 }
  | .memory bytes =>
    { output := []
      complaint := some ("memory allocation of " ++ toString bytes ++ " bytes failed")
      code := 134 }

def idLines (p : Product) : List Line :=
  .product p.name :: p.coldIds.map (.id true) ++ p.warmIds.map (.id false)

def runRequest (config : Config) : Request → Report
  | .help action => { output := action.help.map .help }
  | .ids => { output := knownProducts.flatMap idLines }
  | .simulate options =>
    let logging := config.logFilter.isSome
    match reserve options.adapters Simulation.Options.adapterBytes with
    | .error crash => .ofCrash crash
    | .ok () =>
      let (lines, result) := Simulation.run options config
      let output := lines.map .simulation
      match result with
      | .ok () => { output, logging }
      | .error e => { output, logging, complaint := some ("Error: " ++ e.message), code := 1 }

def run (arguments : List String) (config : Config) : Report :=
  match readArguments arguments with
  | .error problem => { output := [], complaint := some problem.message, code := 2 }
  | .ok request => runRequest config request

end DvbReceiver.Command
