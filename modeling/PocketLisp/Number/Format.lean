import PocketLisp.Number.Decimal

set_option autoImplicit false

namespace PocketLisp

structure NumberFormat where
  -- Magnitudes from `10 ^ positionalFrom` up to, not including, `10 ^ positionalBelow` are
  -- written without an exponent.
  positionalFrom : Int
  positionalBelow : Int
  -- Whole numbers written without an exponent show all their digits, not only the fewest.
  exactIntegers : Bool
  keepPoint : Bool
  exponentWidth : Nat
  signedZero : Bool
  infinity : String
  nan : String

namespace NumberFormat

def zeros (count : Nat) : List Char :=
  List.replicate count '0'

def dropTrailingZeros (digits : List Char) : List Char :=
  (digits.reverse.dropWhile (· == '0')).reverse

-- Digits with the point after the first `point` of them, zeros filling any gap.
def positional (format : NumberFormat) (digits : List Char) (point : Int) : List Char :=
  if point ≤ 0 then ['0', '.'] ++ zeros (-point).toNat ++ digits
  else if digits.length ≤ point.toNat then
    digits ++ zeros (point.toNat - digits.length) ++ (if format.keepPoint then ['.', '0'] else [])
  else digits.take point.toNat ++ '.' :: digits.drop point.toNat

def exponentDigits (format : NumberFormat) (exponent : Nat) : List Char :=
  let digits := Nat.toDigits 10 exponent
  zeros (format.exponentWidth - digits.length) ++ digits

def scientific (format : NumberFormat) (digits : List Char) (exponent : Int) : List Char :=
  digits.take 1 ++ (if digits.length ≤ 1 then [] else '.' :: digits.drop 1) ++
    ['e', if exponent < 0 then '-' else '+'] ++ format.exponentDigits exponent.natAbs

def decimal (format : NumberFormat) (d : Decimal) : List Char :=
  let allDigits := Nat.toDigits 10 d.coefficient
  let point := allDigits.length + d.exponent
  let digits := dropTrailingZeros allDigits
  if format.positionalFrom < point ∧ point ≤ format.positionalBelow then
    format.positional digits point
  else format.scientific digits (point - 1)

def digitsFor (format : NumberFormat) (rank : Nat) : Decimal :=
  let units := Number.units rank
  let whole := units / Number.unitsPerOne
  if format.exactIntegers ∧ units % Number.unitsPerOne = 0 ∧
      whole < Nat.pow 10 format.positionalBelow.toNat then ⟨whole, 0⟩
  else Decimal.shortest rank

def zeroText (format : NumberFormat) (negative : Bool) : List Char :=
  (if negative && format.signedZero then ['-'] else []) ++
    '0' :: (if format.keepPoint then ['.', '0'] else [])

def sign (negative : Bool) : String :=
  if negative then "-" else ""

def write (format : NumberFormat) : Number → String
  | .finite negative rank =>
    if rank.val = 0 then String.ofList (format.zeroText negative)
    else sign negative ++ String.ofList (format.decimal (format.digitsFor rank))
  | .infinite negative => sign negative ++ format.infinity
  | .nan _ => format.nan

end NumberFormat

end PocketLisp
