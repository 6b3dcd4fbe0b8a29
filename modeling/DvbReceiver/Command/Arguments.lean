import DvbReceiver.Command.Help

set_option autoImplicit false

namespace DvbReceiver.Command

inductive Request where
  | help (action : Action)
  | ids
  | simulate (options : Simulation.Options)
  deriving DecidableEq, Repr

def Action.request (options : Simulation.Options) : Action → Request
  | .ids => .ids
  | .simulate => .simulate options

inductive Argument where
  | word (text : String)
  | named (name : String) (value : Option String)
  | letters (first : Char)
  deriving DecidableEq, Repr

def splitValue (argument : String) : String × Option String :=
  let chars := argument.toList
  match chars.dropWhile (· != '=') with
  | [] => (argument, none)
  | _ :: value => (String.ofList (chars.takeWhile (· != '=')), some (String.ofList value))

def Argument.ofString (text : String) : Argument :=
  match text.toList with
  | '-' :: '-' :: _ => .named (splitValue text).1 (splitValue text).2
  | '-' :: c :: _ => .letters c
  | _ => .word text

structure Reading where
  options : Simulation.Options := {}
  given : List Setting := []
  /-- The setting named last and the argument behind it, whose value is not read yet. -/
  pending : Option (Setting × Option String) := none
  deriving DecidableEq, Repr

namespace Reading

def addPids (r : Reading) (pids : List Nat) : Reading :=
  let before := if r.given.contains .pids then r.options.pids else []
  { r with options := { r.options with pids := before ++ pids } }

def set (r : Reading) (setting : Setting) (value : String) : Except Problem Reading :=
  let o := r.options
  match setting with
  | .adapters =>
    (readSize setting value).map fun n => { r with options := { o with adapters := n } }
  | .pids => (readPids ((value.toList.splitOn ',').map String.ofList)).map r.addPids
  | .durationMs =>
    (readSize setting value).map fun n => { r with options := { o with milliseconds := n } }
  | .isoc => .ok { r with options := { o with isoc := true } }
  | .isoErrorEvery =>
    (readSize setting value).map fun n => { r with options := { o with loseEvery := some n } }
  | .pidFilter =>
    (readChoice setting filterChoices value).map fun filter =>
      { r with options := { o with filter } }
  | .speed =>
    (readChoice setting speedChoices value).map fun speed =>
      { r with options := { o with speed } }

def give (r : Reading) (setting : Setting) (value : String) : Except Problem Reading :=
  if r.given.contains setting && !setting.mayRepeat then .error (.repeated setting)
  else (r.set setting value).map fun r => { r with given := setting :: r.given }

def settle (r : Reading) : Except Problem Reading :=
  match r.pending with
  | none => .ok r
  | some (setting, none) => .error (.missingValue setting)
  | some (setting, some value) => { r with pending := none }.give setting value

/-- A value behind an equals sign is read at once, one in an argument of its own is put off. -/
def nameSetting (r : Reading) (setting : Setting) : Option String → Except Problem Reading
  | some value =>
    if setting.takesValue then
      match r.settle with
      | .error problem => .error problem
      | .ok r => r.give setting value
    else .error (.unexpectedValue (.setting setting) value)
  | none =>
    match r.settle with
    | .error problem => .error problem
    | .ok r =>
      if setting.takesValue then .ok { r with pending := some (setting, none) }
      else r.give setting ""

/-- Nothing when help is asked for, which is not before the value put off has been read. -/
def step (r : Reading) (action : Action) : Argument → Except Problem (Option Reading)
  | .word text =>
    match r.pending with
    | some (setting, none) => .ok (some { r with pending := some (setting, some text) })
    | _ => .error (.unexpectedArgument text)
  | .named name value =>
    match action.flags.find? (·.name == name), value with
    | none, _ => .error (.unexpectedArgument name)
    | some .help, some value => .error (.unexpectedValue .help value)
    | some .help, none => r.settle.map fun _ => none
    | some (.setting setting), value => (r.nameSetting setting value).map some
  | .letters first =>
    if first == 'h' then r.settle.map fun _ => none
    else .error (.unexpectedArgument (String.ofList ['-', first]))

def steps (r : Reading) (action : Action) : List String → Except Problem (Option Reading)
  | [] => .ok (some r)
  | argument :: rest =>
    match r.step action (Argument.ofString argument) with
    | .error problem => .error problem
    | .ok none => .ok none
    | .ok (some r) => r.steps action rest

end Reading

def divider : String := "--"

def readOptions (action : Action) (arguments : List String) : Except Problem Request :=
  match ({} : Reading).steps action (arguments.takeWhile (· != divider)) with
  | .error problem => .error problem
  | .ok none => .ok (.help action)
  | .ok (some r) =>
    match arguments.dropWhile (· != divider) with
    | _ :: extra :: _ => .error (.unexpectedArgument extra)
    | _ => r.settle.map fun r => action.request r.options

def action? (name : String) : Option Action :=
  Action.all.find? (·.name == name)

def noAction (first : String) (rest : List String) : Problem :=
  if first == divider then
    match rest with
    | [] => .noCommand
    | name :: _ =>
      if (action? name).isSome then .unexpectedArgument name else .unknownCommand name
  else
    match Argument.ofString first with
    | .word text => .unknownCommand text
    | .named name _ => .unexpectedArgument name
    | .letters c => .unexpectedArgument (String.ofList ['-', c])

def readArguments (arguments : List String) : Except Problem Request :=
  match arguments with
  | [] => .error .noCommand
  | first :: rest =>
    match action? first with
    | some action => readOptions action rest
    | none => .error (noAction first rest)

end DvbReceiver.Command
