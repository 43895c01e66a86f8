import PocketLisp.Number.Basic

set_option autoImplicit false

namespace PocketLisp

inductive Json where
  | null
  | bool (b : Bool)
  | int (n : Int)
  | float (x : Number)
  | str (s : String)
  | arr (items : List Json)
  | obj (fields : List (String × Json))

namespace Json

instance : Inhabited Json := ⟨.null⟩

def put (key : String) (value : Json) : List (String × Json) → List (String × Json)
  | [] => [(key, value)]
  | (k, v) :: rest => if k = key then (k, value) :: rest else (k, v) :: put key value rest

def field? (key : String) : Json → Option Json
  | .obj fields => fields.lookup key
  | _ => none

end Json

end PocketLisp
