set_option autoImplicit false

namespace DvbReceiver.Path

def isAbsolute (path : String) : Bool :=
  path.toList.head? == some '/'

/-- An absolute second part stands alone. -/
def join (directory name : String) : String :=
  if isAbsolute name then name
  else if directory.isEmpty || directory.toList.getLast? == some '/' then directory ++ name
  else directory ++ "/" ++ name

def components (path : String) : List String :=
  (path.toList.splitOn '/').map String.ofList

end DvbReceiver.Path
