import PocketLisp.Number.Print
import PocketLisp.Value

set_option autoImplicit false

namespace PocketLisp

def procedureText (name : String) : String :=
  "#<FUNCTION " ++ Text.upper name ++ ">"

mutual

def Value.print : Value → String
  | .nil => "NIL"
  | .bool b => if b then "T" else "NIL"
  | .number x => x.print
  | .symbol s => s.print
  | .text content => content
  | .list items => "(" ++ " ".intercalate (Value.printAll items) ++ ")"
  | .primitive p => procedureText p.name
  | .function _ name _ _ _ => procedureText name

def Value.printAll : List Value → List String
  | [] => []
  | v :: rest => v.print :: Value.printAll rest

end

end PocketLisp
