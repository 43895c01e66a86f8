import PocketLisp.Number.Basic

set_option autoImplicit false

namespace PocketLisp.Number

def signBit : Nat :=
  Nat.pow 2 63

def ofBits (mark word : Nat) : Number :=
  let negative := word / signBit % 2 == 1
  let rank := word % signBit
  if rank ≤ overflowRank then ofRank negative rank else .nan mark

def toBits? : Number → Option Nat
  | .finite negative rank => some (rank + if negative then signBit else 0)
  | .infinite negative => some (overflowRank + if negative then signBit else 0)
  | .nan _ => none

end PocketLisp.Number
