import PocketLisp.Text.Case

set_option autoImplicit false

namespace PocketLisp

structure Symbol where
  name : String
deriving DecidableEq, Repr

namespace Symbol

def ofText (text : String) : Symbol :=
  ⟨Text.lower text⟩

-- Upper case, unless that would read back as another symbol.
def print (s : Symbol) : String :=
  let capital := Text.upper s.name
  if Text.lower capital = s.name then capital else s.name

end Symbol

end PocketLisp
