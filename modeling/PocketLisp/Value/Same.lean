import PocketLisp.Value

set_option autoImplicit false

namespace PocketLisp

mutual

def Value.same : Value → Value → Bool
  | .nil, .nil => true
  | .bool a, .bool b => a == b
  | .number x, .number y => x.same y
  | .symbol s, .symbol t => s == t
  | .text a, .text b => a == b
  | .list xs, .list ys => Value.sameAll xs ys
  | .primitive p, .primitive q => p == q
  | .function tag name _ _ home, .function tag' name' _ _ home' =>
    tag == tag' && name == name' && home == home'
  | _, _ => false

def Value.sameAll : List Value → List Value → Bool
  | [], [] => true
  | x :: xs, y :: ys => x.same y && Value.sameAll xs ys
  | _, _ => false

end

end PocketLisp
