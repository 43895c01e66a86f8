set_option autoImplicit false

namespace PocketLisp

inductive Primitive where
  | add | sub | mul | div
  | equal | less | greater | atMost | atLeast
  | list | cons | car | cdr | length | append
  | atom | null | numberp | symbolp
  | and | or | not
  | print
deriving DecidableEq, Repr

namespace Primitive

def name : Primitive → String
  | add => "+"
  | sub => "-"
  | mul => "*"
  | div => "/"
  | equal => "="
  | less => "<"
  | greater => ">"
  | atMost => "<="
  | atLeast => ">="
  | list => "list"
  | cons => "cons"
  | car => "car"
  | cdr => "cdr"
  | length => "length"
  | append => "append"
  | atom => "atom"
  | null => "null"
  | numberp => "numberp"
  | symbolp => "symbolp"
  | and => "and"
  | or => "or"
  | not => "not"
  | print => "print"

-- All primitives, in the order in which a new session binds them.
def all : List Primitive :=
  [add, sub, mul, div, equal, less, greater, atMost, atLeast, list, cons, car, cdr, length, append,
   atom, null, numberp, symbolp, and, or, not, print]

def ofName? (name : String) : Option Primitive :=
  all.find? (·.name == name)

end Primitive

end PocketLisp
