set_option autoImplicit false

namespace DvbReceiver

inductive FileProblem where
  | notFound
  | notDirectory
  | isDirectory
  | nameTooLong
  | nulInPath
  | other (reason : String)
  deriving DecidableEq, Repr

def FileProblem.message : FileProblem → String
  | .notFound => "No such file or directory (os error 2)"
  | .notDirectory => "Not a directory (os error 20)"
  | .isDirectory => "Is a directory (os error 21)"
  | .nameTooLong => "File name too long (os error 36)"
  | .nulInPath => "file name contained an unexpected NUL byte"
  | .other reason => reason

end DvbReceiver
