set_option autoImplicit false

namespace PocketLisp

def binade : Nat :=
  Nat.pow 2 52

def overflowRank : Nat :=
  2047 * binade

/-- Binary64 numbers as exact values. A finite magnitude is a whole number of units of 2^-1074, and
the representable magnitudes are ranked upward from zero. Each computation whose answer is not a
number makes one of its own; `mark` tells them apart. -/
inductive Number where
  | finite (negative : Bool) (rank : Fin overflowRank)
  | infinite (negative : Bool)
  | nan (mark : Nat)
deriving DecidableEq, Repr

namespace Number

def unitsPerOne : Nat :=
  Nat.pow 2 1074

-- The magnitude of a rank in units. The spacing is one unit in the first two binades and doubles
-- with every further one.
def units (rank : Nat) : Nat :=
  if rank < binade then rank
  else (binade + rank % binade) * Nat.pow 2 (rank / binade - 1)

def roundDiv (num den : Nat) : Nat :=
  let quotient := num / den
  let twice := 2 * (num % den)
  if twice < den then quotient
  else if twice = den then quotient + quotient % 2
  else quotient + 1

def nearestRank (num den : Nat) : Nat :=
  let shift := (num / den).log2 - 52
  shift * binade + roundDiv num (den * Nat.pow 2 shift)

def ofRank (negative : Bool) (rank : Nat) : Number :=
  if h : rank < overflowRank then .finite negative ⟨rank, h⟩ else .infinite negative

def ofUnits (negative : Bool) (num den : Nat) : Number :=
  ofRank negative (nearestRank num den)

def ofNat (n : Nat) : Number :=
  ofUnits false (n * unitsPerOne) 1

def zero : Number :=
  ofRank false 0

def one : Number :=
  ofNat 1

def signedUnits (negative : Bool) (rank : Nat) : Int :=
  if negative then -(units rank : Int) else units rank

-- The first argument of an operation is the mark of the answer when it is not a number.
def neg (mark : Nat) : Number → Number
  | .finite negative rank => .finite (!negative) rank
  | .infinite negative => .infinite (!negative)
  | .nan _ => .nan mark

-- A sum of zero is negative only when both terms are.
def addFinite (x : Bool) (m : Nat) (y : Bool) (n : Nat) : Number :=
  let sum := signedUnits x m + signedUnits y n
  if sum = 0 then ofRank (x && y) 0 else ofUnits (sum < 0) sum.natAbs 1

def add (mark : Nat) : Number → Number → Number
  | .finite x m, .finite y n => addFinite x m y n
  | .infinite x, .infinite y => if x = y then .infinite x else .nan mark
  | .infinite x, .finite _ _ => .infinite x
  | .finite _ _, .infinite y => .infinite y
  | .nan _, _ => .nan mark
  | _, .nan _ => .nan mark

def sub (mark : Nat) (a b : Number) : Number :=
  add mark a (neg mark b)

def mul (mark : Nat) : Number → Number → Number
  | .finite x m, .finite y n => ofUnits (x != y) (units m * units n) unitsPerOne
  | .infinite x, .infinite y => .infinite (x != y)
  | .infinite x, .finite y n => if n.val = 0 then .nan mark else .infinite (x != y)
  | .finite x m, .infinite y => if m.val = 0 then .nan mark else .infinite (x != y)
  | .nan _, _ => .nan mark
  | _, .nan _ => .nan mark

def div (mark : Nat) : Number → Number → Number
  | .finite x m, .finite y n =>
    if n.val ≠ 0 then ofUnits (x != y) (units m * unitsPerOne) (units n)
    else if m.val = 0 then .nan mark else .infinite (x != y)
  | .infinite _, .infinite _ => .nan mark
  | .infinite x, .finite y _ => .infinite (x != y)
  | .finite x _, .infinite y => ofRank (x != y) 0
  | .nan _, _ => .nan mark
  | _, .nan _ => .nan mark

def place : Number → Option Int
  | .finite negative rank => some (if negative then -(rank.val : Int) else rank.val)
  | .infinite negative => some (if negative then -(overflowRank : Int) else overflowRank)
  | .nan _ => none

def compareBy (relation : Int → Int → Bool) (a b : Number) : Bool :=
  match a.place, b.place with
  | some x, some y => relation x y
  | _, _ => false

def equal (a b : Number) : Bool :=
  compareBy (· == ·) a b

def less (a b : Number) : Bool :=
  compareBy (· < ·) a b

def atMost (a b : Number) : Bool :=
  compareBy (· ≤ ·) a b

def same (a b : Number) : Bool :=
  a == b || a.equal b

def isZero : Number → Bool
  | .finite _ rank => rank.val = 0
  | _ => false

end Number

end PocketLisp
