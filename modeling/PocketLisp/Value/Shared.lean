import PocketLisp.Value.Same

set_option autoImplicit false

namespace PocketLisp

theorem Number.same_self (x : Number) : x.same x = true := by
  simp [Number.same]

mutual

theorem Value.same_self : (v : Value) → v.same v = true
  | .nil => by simp [Value.same]
  | .bool _ => by simp [Value.same]
  | .number x => by simp [Value.same, x.same_self]
  | .symbol _ => by simp [Value.same]
  | .text _ => by simp [Value.same]
  | .list items => by simp [Value.same, Value.sameAll_self items]
  | .primitive _ => by simp [Value.same]
  | .function .. => by simp [Value.same]

theorem Value.sameAll_self : (items : List Value) → Value.sameAll items items = true
  | [] => by simp [Value.sameAll]
  | v :: rest => by simp [Value.sameAll, v.same_self, Value.sameAll_self rest]

end

mutual

def Value.compare : (v w : Value) → { r : Bool // r = v.same w }
  | .list xs, .list ys =>
    ⟨(Value.compareAll xs ys).val, by rw [(Value.compareAll xs ys).property, Value.same]⟩
  | v, w => ⟨v.same w, rfl⟩

def Value.compareAll : (xs ys : List Value) → { r : Bool // r = Value.sameAll xs ys }
  | x :: xs, y :: ys =>
    ⟨withPtrEq x y (fun _ => (Value.compare x y).val)
        (fun equal => by rw [(Value.compare x y).property, equal, y.same_self]) &&
      (Value.compareAll xs ys).val, by
      show ((Value.compare x y).val && _) = _
      rw [(Value.compare x y).property, (Value.compareAll xs ys).property, Value.sameAll]⟩
  | xs, ys => ⟨Value.sameAll xs ys, rfl⟩

end

def Value.equal (v w : Value) : Bool :=
  withPtrEq v w (fun _ => (v.compare w).val)
    (fun equal => by rw [(v.compare w).property, equal, w.same_self])

@[simp] theorem Value.equal_eq_same (v w : Value) : v.equal w = v.same w :=
  (v.compare w).property

end PocketLisp
