import DvbReceiver.Failure
import DvbReceiver.Files.System

set_option autoImplicit false

namespace DvbReceiver.Firmware

def hasDoubleDot : List Char → Bool
  | '.' :: '.' :: _ => true
  | _ :: rest => hasDoubleDot rest
  | [] => false

/-- Two dots in a row could lead out of the directories. -/
def isName (name : String) : Bool :=
  !name.isEmpty && !hasDoubleDot name.toList

/-- Only a file that is not there makes for a look into the next directory. -/
def search (fs : FileSystem) (name : String) : List String → Option (Except Failure Bytes)
  | [] => none
  | directory :: rest =>
    let path := Path.join directory name
    match fs.read path with
    | .ok [] => some (.error (.firmwareEmpty name path))
    | .ok image => some (.ok image)
    | .error .notFound => search fs name rest
    | .error problem => some (.error (.firmwareFile name path problem))

def load (fs : FileSystem) (directories : List String) (name : String) : Except Failure Bytes :=
  if isName name then
    (search fs name directories).getD (.error (.firmwareNotFound name directories))
  else .error (.firmwareName name)

end DvbReceiver.Firmware
