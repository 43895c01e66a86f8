set_option autoImplicit false

namespace PocketLisp.Text

def within (c : Char) (run : Nat × Nat) : Bool :=
  run.1 ≤ c.toNat && c.toNat ≤ run.2

def inRanges (table : List (Nat × Nat)) (c : Char) : Bool :=
  table.any (within c)

-- Every `step`-th code point from `first` to `last` is sent to the one as far above `image`.
structure CaseRun where
  first : Nat
  last : Nat
  step : Nat
  image : Nat

def CaseRun.covers (run : CaseRun) (c : Char) : Bool :=
  within c (run.first, run.last) && (c.toNat - run.first) % run.step == 0

def mapRuns (runs : List CaseRun) (c : Char) : Char :=
  match runs.find? (·.covers c) with
  | some run => Char.ofNat (run.image + (c.toNat - run.first))
  | none => c

end PocketLisp.Text
