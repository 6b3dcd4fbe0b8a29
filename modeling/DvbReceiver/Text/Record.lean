set_option autoImplicit false

namespace DvbReceiver.Record

def closed (name : String) (fields : List (String × String)) : String :=
  name ++ " \x7b " ++ ", ".intercalate (fields.map fun (field, value) => field ++ ": " ++ value) ++
    " \x7d"

def partly (name : String) (fields : List (String × String)) : String :=
  let told := fields.map fun (field, value) => field ++ ": " ++ value ++ ", "
  name ++ " \x7b " ++ String.join told ++ ".. \x7d"

def applied (name : String) (arguments : List String) : String :=
  name ++ "(" ++ ", ".intercalate arguments ++ ")"

def list (items : List String) : String :=
  "[" ++ ", ".intercalate items ++ "]"

def set (items : List String) : String :=
  "\x7b" ++ ", ".intercalate items ++ "\x7d"

def option {α : Type} (text : α → String) : Option α → String
  | none => "None"
  | some a => applied "Some" [text a]

def flag (b : Bool) : String :=
  if b then "true" else "false"

end DvbReceiver.Record
