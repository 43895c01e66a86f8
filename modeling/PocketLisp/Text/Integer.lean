import PocketLisp.Text.Blank
import PocketLisp.Text.Digit
import PocketLisp.Number.Literal

set_option autoImplicit false

namespace PocketLisp.Text

-- The blanks allowed around an integer; of ASCII only those that byte lines are trimmed of.
def isIntegerBlank (c : Char) : Bool :=
  if c.toNat < 128 then isAsciiBlank c.toNat else isBlank c

def digitRun? : List Char → Option (List Nat)
  | [] => none
  | [c] => (digit? c).map ([·])
  | c :: '_' :: rest => do
    let d ← digit? c
    let ds ← digitRun? rest
    return d :: ds
  | c :: rest => do
    let d ← digit? c
    let ds ← digitRun? rest
    return d :: ds

def integer? (text : String) : Option Int := do
  let (negative, unsigned) := Literal.sign (trimBoth isIntegerBlank text.toList)
  let digits ← digitRun? unsigned
  guard (digits.length ≤ Literal.maxIntegerDigits)
  let value : Nat := digits.foldl (fun n d => 10 * n + d) 0
  return if negative then -(value : Int) else value

end PocketLisp.Text
