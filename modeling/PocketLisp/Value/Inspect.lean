import PocketLisp.Value.Print
import PocketLisp.Text.Quoted

set_option autoImplicit false

namespace PocketLisp

def inspectBool (b : Bool) : String :=
  if b then "True" else "False"

def Symbol.inspect (s : Symbol) : String :=
  "Symbol(" ++ Text.quoted s.name ++ ")"

mutual

def Value.inspect : Value → String
  | .nil => "NIL"
  | .bool b => inspectBool b
  | .number x => x.inspect
  | .symbol s => s.inspect
  | .text content => Text.quoted content
  | .list items => "[" ++ ", ".intercalate (Value.inspectAll items) ++ "]"
  | .primitive p => procedureText p.name
  | .function _ name _ _ _ => procedureText name

def Value.inspectAll : List Value → List String
  | [] => []
  | v :: rest => v.inspect :: Value.inspectAll rest

end

def Value.display : Value → String
  | .symbol s => s.name
  | .text content => content
  | v => v.inspect

end PocketLisp
