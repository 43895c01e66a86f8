import PocketLisp.Number.Basic

set_option autoImplicit false

namespace PocketLisp

structure Decimal where
  coefficient : Nat
  exponent : Int
deriving DecidableEq, Repr

namespace Decimal

def digitCount (n : Nat) : Nat :=
  (Nat.toDigits 10 n).length

def rank (d : Decimal) : Nat :=
  if 0 ≤ d.exponent then
    Number.nearestRank (d.coefficient * Nat.pow 10 d.exponent.toNat * Number.unitsPerOne) 1
  else
    Number.nearestRank (d.coefficient * Number.unitsPerOne) (Nat.pow 10 (-d.exponent).toNat)

-- The number nearest to a decimal. One whose first digit stands more than 400 places from the
-- point overflows or vanishes without its power of ten being computed.
def toNumber (negative : Bool) (d : Decimal) : Number :=
  let top := digitCount d.coefficient + d.exponent
  if d.coefficient = 0 ∨ top < -400 then Number.ofRank negative 0
  else if 400 < top then .infinite negative
  else Number.ofRank negative d.rank

def leadingExponent (rank : Nat) : Int :=
  (digitCount (Number.units rank * Nat.pow 10 400 / Number.unitsPerOne) : Int) - 401

def scaled (rank : Nat) (exponent : Int) : Nat × Nat :=
  if 0 ≤ exponent then (Number.units rank, Number.unitsPerOne * Nat.pow 10 exponent.toNat)
  else (Number.units rank * Nat.pow 10 (-exponent).toNat, Number.unitsPerOne)

-- The two neighbours of `num / den` among the whole numbers, the nearer first; of two equally
-- near the even one is first.
def neighbours (num den : Nat) : List Nat :=
  let below := num / den
  if Number.roundDiv num den = below then [below, below + 1] else [below + 1, below]

def onGrid? (rank : Nat) (exponent : Int) : Option Decimal :=
  let (num, den) := scaled rank exponent
  ((neighbours num den).map (⟨·, exponent⟩)).find? (·.rank == rank)

def exact (rank : Nat) : Decimal :=
  ⟨Number.units rank * Nat.pow 5 1074, -1074⟩

/-- The fewest digits that read back as `rank`; seventeen always do. -/
def shortest (rank : Nat) : Decimal :=
  let leading := leadingExponent rank
  ((List.range 17).findSome? fun n : Nat => onGrid? rank (leading - n)).getD (exact rank)

end Decimal

end PocketLisp
