import PocketLisp.Number.Format
import PocketLisp.Number.Literal

set_option autoImplicit false

namespace PocketLisp

-- Inspected numbers have no exponent from 10^-4 up to 10^16, where whole numbers end in `.0`.
def inspectedNumber : NumberFormat where
  positionalFrom := -4
  positionalBelow := 16
  exactIntegers := false
  keepPoint := true
  exponentWidth := 2
  signedZero := true
  infinity := "inf"
  nan := "nan"

namespace Number

def inspect (x : Number) : String :=
  inspectedNumber.write x

def integerText (n : Int) : List Char :=
  (if n < 0 then ['-'] else []) ++ Nat.toDigits 10 n.natAbs

def hasNegativeExponent : List Char → Bool
  | 'e' :: '-' :: _ => true
  | _ :: rest => hasNegativeExponent rest
  | [] => false

def fixedNotation : NumberFormat :=
  { inspectedNumber with keepPoint := false }

-- All digits of the decimal that a literal denotes, those before its point included.
def fixedText (text : List Char) : List Char :=
  match Literal.parse? text with
  | some (negative, d) =>
    let digits := Nat.toDigits 10 d.coefficient
    (NumberFormat.sign negative).toList ++
      fixedNotation.positional digits (digits.length + d.exponent)
  | none => text

def dropLeadingZeros : List Char → List Char
  | '0' :: c :: rest => if c.isDigit then dropLeadingZeros (c :: rest) else '0' :: c :: rest
  | digits => digits

def shortenExponent (text : List Char) : List Char :=
  match text.dropWhile (· != 'e') with
  | e :: mark :: digits =>
    if mark = '+' ∨ mark = '-' then
      text.takeWhile (· != 'e') ++ e :: mark :: dropLeadingZeros digits
    else text
  | _ => text

def isWhole (rank : Nat) : Bool :=
  units rank % unitsPerOne == 0

-- The numbers nearest to 10^21 and to 10^-6.
def wholeBelow : Nat := Decimal.rank ⟨1, 21⟩

def fixedFrom : Nat := Decimal.rank ⟨1, -6⟩

def printFinite (negative : Bool) (rank : Fin overflowRank) : List Char :=
  if isWhole rank ∧ rank.val < wholeBelow then
    integerText (signedUnits negative rank / unitsPerOne)
  else
    let text := (finite negative rank).inspect.toList
    if hasNegativeExponent text ∧ fixedFrom ≤ rank.val then fixedText text
    else shortenExponent text

/-- Whole numbers below 10^21 show their digits. Others are shown as inspected, without an exponent
from 10^-6 on and without zeros in front of an exponent. -/
def print : Number → String
  | .nan _ => "NaN"
  | .infinite negative => if negative then "-Infinity" else "Infinity"
  | .finite negative rank => String.ofList (printFinite negative rank)

end Number

end PocketLisp
