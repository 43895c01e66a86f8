import PocketLisp.Number.Basic
import PocketLisp.Symbol
import PocketLisp.Primitive

set_option autoImplicit false

namespace PocketLisp

abbrev Scope := Nat

inductive Value where
  | nil
  | bool (b : Bool)
  | number (x : Number)
  | symbol (s : Symbol)
  | text (content : String)
  | list (items : List Value)
  | primitive (p : Primitive)
  -- A function defined in the scope `home`. The tag tells functions of one name and home
  -- apart.
  | function (tag : Nat) (name : String) (params : List Symbol) (body : List Value) (home : Scope)

instance : Inhabited Value := ⟨.nil⟩

namespace Value

def isTrue : Value → Bool
  | .nil => false
  | .bool b => b
  | _ => true

def isVoid : Value → Bool
  | .nil => true
  | .bool b => !b
  | .number x => x.isZero
  | .text content => content.isEmpty
  | .list items => items.isEmpty
  | _ => false

def isProcedure : Value → Bool
  | .primitive _ => true
  | .function .. => true
  | _ => false

def isNumber : Value → Bool
  | .number _ => true
  | _ => false

def isSymbol : Value → Bool
  | .symbol _ => true
  | _ => false

def isList : Value → Bool
  | .list _ => true
  | _ => false

mutual

def depth : Value → Nat
  | .list items => depthAll items + 1
  | _ => 1

def depthAll : List Value → Nat
  | [] => 0
  | v :: rest => max v.depth (depthAll rest)

end

end Value

end PocketLisp
