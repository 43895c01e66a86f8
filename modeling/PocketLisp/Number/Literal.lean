import PocketLisp.Number.Decimal

set_option autoImplicit false

namespace PocketLisp.Literal

def digits (text : List Char) : List Char × List Char :=
  (text.takeWhile Char.isDigit, text.dropWhile Char.isDigit)

def sign : List Char → Bool × List Char
  | '+' :: rest => (false, rest)
  | '-' :: rest => (true, rest)
  | text => (false, text)

def value (digits : List Char) : Nat :=
  digits.foldl (fun n c => 10 * n + (c.toNat - 48)) 0

def maxIntegerDigits : Nat := 4300

def mantissa? (text : List Char) : Option (List Char × List Char × List Char) :=
  match digits text with
  | (whole, '.' :: rest) =>
    let (fraction, rest) := digits rest
    if whole.isEmpty && fraction.isEmpty then none else some (whole, fraction, rest)
  | (whole, rest) => if whole.isEmpty then none else some (whole, [], rest)

-- The exponent, which takes the whole text and is zero when that is empty.
def exponent? : List Char → Option Int
  | [] => some 0
  | c :: rest =>
    if c = 'e' ∨ c = 'E' then
      let (negative, rest) := sign rest
      match digits rest with
      | (exponent, []) =>
        if exponent.isEmpty then none
        else some (if negative then -(value exponent : Int) else value exponent)
      | _ => none
    else none

def parse? (text : List Char) : Option (Bool × Decimal) := do
  let (negative, rest) := sign text
  let (whole, fraction, rest) ← mantissa? rest
  let exponent ← exponent? rest
  return (negative, ⟨value (whole ++ fraction), exponent - fraction.length⟩)

def number? (text : String) : Option Number :=
  (parse? text.toList).map fun (negative, decimal) => decimal.toNumber negative

end PocketLisp.Literal
