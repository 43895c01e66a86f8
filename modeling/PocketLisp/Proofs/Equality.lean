import PocketLisp.Proofs.CanonicalNumber
import PocketLisp.Value.Shared

set_option autoImplicit false

namespace PocketLisp

def Number.core : Number → Number
  | .finite negative rank => .finite (negative && rank.val != 0) rank
  | x => x

namespace Value

mutual

def core : Value → Value
  | .number x => .number x.core
  | .list items => .list (coreAll items)
  | .function tag name _ _ home => .function tag name [] [] home
  | v => v

def coreAll : List Value → List Value
  | [] => []
  | v :: rest => v.core :: coreAll rest

end

inductive Kind where
  | nil | bool | number | symbol | text | list | primitive | function
deriving DecidableEq, Repr

def kind : Value → Kind
  | .nil => .nil
  | .bool _ => .bool
  | .number _ => .number
  | .symbol _ => .symbol
  | .text _ => .text
  | .list _ => .list
  | .primitive _ => .primitive
  | .function .. => .function

/-- A comparison and its answer. What is one object on both sides may be found equal at once; a list
that occurs twice may be one object or two. -/
inductive Compares : Value → Value → Bool → Prop where
  | identical (v : Value) : Compares v v true
  | kinds {v w : Value} (differ : v.kind ≠ w.kind) : Compares v w false
  | bools (a b : Bool) : Compares (.bool a) (.bool b) (a == b)
  -- What is not a number has a mark for each object, so equal marks are one object.
  | numbers {x y : Number} (apart : ∀ mark, x = .nan mark → y ≠ .nan mark) :
      Compares (.number x) (.number y) (x.equal y)
  | symbols (s t : Symbol) : Compares (.symbol s) (.symbol t) (s.name == t.name)
  | texts (a b : String) : Compares (.text a) (.text b) (a == b)
  | primitives {p q : Primitive} (apart : p ≠ q) : Compares (.primitive p) (.primitive q) false
  -- Tag, name and home are what tells functions apart, whatever is in them.
  | functions {tag tag' : Nat} {name name' : String} {params params' : List Symbol}
      {body body' : List Value} {home home' : Scope} :
      Compares (.function tag name params body home) (.function tag' name' params' body' home')
        (decide ((tag, name, home) = (tag', name', home')))
  | lengths {xs ys : List Value} (differ : xs.length ≠ ys.length) :
      Compares (.list xs) (.list ys) false
  | equals {xs ys : List Value} (long : xs.length = ys.length)
      (each : ∀ x y, (x, y) ∈ xs.zip ys → Compares x y true) : Compares (.list xs) (.list ys) true
  | differs {xs ys : List Value} {x y : Value} (long : xs.length = ys.length)
      (pair : (x, y) ∈ xs.zip ys) (differ : Compares x y false) :
      Compares (.list xs) (.list ys) false

end Value

namespace Number

theorem equal_finite_infinite (negative negative' : Bool) (rank : Fin overflowRank) :
    (finite negative rank).equal (infinite negative') = false := by
  have within := rank.isLt
  have places : (finite negative rank).equal (infinite negative') = true ↔
      (if negative then -(rank.val : Int) else rank.val) =
        if negative' then -(overflowRank : Int) else overflowRank := beq_iff_eq
  rw [← Bool.not_eq_true, places]
  cases negative <;> cases negative' <;> simp <;> omega

theorem equal_comm (x y : Number) : x.equal y = y.equal x := by
  simp only [equal, compareBy]
  cases x.place <;> cases y.place <;> simp [Bool.beq_comm]

section Apart

-- Two numbers that are not the same object without a value.
variable {x y : Number} (apart : ∀ mark, x = nan mark → y ≠ nan mark)

include apart

theorem same_of_apart : x.same y = x.equal y := by
  by_cases one : x = y
  · subst one
    have equal : x.equal x = true := by
      cases x with
      | nan mark => exact absurd rfl (apart mark rfl)
      | _ => exact beq_self_eq_true _
    rw [equal, same_self]
  · have differ : (x == y) = false := beq_eq_false_iff_ne.mpr one
    rw [same, differ, Bool.false_or]

theorem core_eq_iff_equal : x.core = y.core ↔ x.equal y = true := by
  cases x with
  | finite negative rank =>
    cases y with
    | finite negative' rank' =>
      rw [equal_finite_iff, core, core, finite.injEq, and_comm]
      refine and_congr_right ?_
      rintro rfl
      by_cases zero : rank.val = 0
      · simp [zero]
      · have shown : (rank.val != 0) = true := bne_iff_ne.mpr zero
        simp [zero, shown]
    | infinite negative' => simp [core, equal_finite_infinite]
    | nan mark => simp [core, equal, compareBy, place]
  | infinite negative =>
    cases y with
    | finite negative' rank' => simp [core, equal_comm, equal_finite_infinite]
    | infinite negative' => cases negative <;> cases negative' <;> decide
    | nan mark => simp [core, equal, compareBy, place]
  | nan mark =>
    cases y with
    | nan mark' =>
      have differ : mark ≠ mark' := fun same => apart mark rfl (same ▸ rfl)
      simp [core, equal, compareBy, place, differ]
    | _ => simp [core, equal, compareBy, place]

end Apart

theorem same_iff_core (x y : Number) : x.same y = true ↔ x.core = y.core := by
  by_cases apart : ∀ mark, x = nan mark → y ≠ nan mark
  · rw [same_of_apart apart, core_eq_iff_equal apart]
  · push Not at apart
    obtain ⟨mark, rfl, rfl⟩ := apart
    simp [same_self]

end Number

namespace Value

-- A function is a leaf: equality does not look at its body.
mutual

theorem list_induction {motive : Value → Prop} (leaf : ∀ v, v.isList = false → motive v)
    (list : ∀ items, (∀ v ∈ items, motive v) → motive (.list items)) : ∀ v, motive v
  | .list items => list items (list_induction_all leaf list items)
  | .nil => leaf _ rfl
  | .bool _ => leaf _ rfl
  | .number _ => leaf _ rfl
  | .symbol _ => leaf _ rfl
  | .text _ => leaf _ rfl
  | .primitive _ => leaf _ rfl
  | .function .. => leaf _ rfl

theorem list_induction_all {motive : Value → Prop} (leaf : ∀ v, v.isList = false → motive v)
    (list : ∀ items, (∀ v ∈ items, motive v) → motive (.list items)) :
    ∀ items : List Value, ∀ v ∈ items, motive v
  | [] => by simp
  | w :: rest => by
    have first := list_induction leaf list w
    have later := list_induction_all leaf list rest
    exact List.forall_mem_cons.mpr ⟨first, later⟩

end

theorem coreAll_eq_map (items : List Value) : coreAll items = items.map core := by
  induction items with
  | nil => rfl
  | cons v rest ih => rw [coreAll, ih, List.map_cons]

theorem kind_core (v : Value) : v.core.kind = v.kind := by
  cases v <;> rfl

theorem sameAll_iff_map_core {xs : List Value}
    (each : ∀ x ∈ xs, ∀ y, x.same y = true ↔ x.core = y.core) (ys : List Value) :
    sameAll xs ys = true ↔ xs.map core = ys.map core := by
  induction xs generalizing ys with
  | nil => cases ys <;> simp [sameAll]
  | cons x xs ih =>
    cases ys with
    | nil => simp [sameAll]
    | cons y ys =>
      have first := each x List.mem_cons_self y
      have later := ih (fun z member => each z (List.mem_cons_of_mem x member)) ys
      rw [sameAll, Bool.and_eq_true, first, later, List.map_cons, List.map_cons, List.cons.injEq]

theorem same_iff_core : ∀ v w : Value, v.same w = true ↔ v.core = w.core := by
  apply list_induction
  · intro v leaf w
    cases v with
    | list items => cases leaf
    | number x => cases w <;> simp [same, core, Number.same_iff_core]
    | function => cases w <;> simp [same, core, and_assoc]
    | _ => cases w <;> simp [same, core]
  · intro xs each w
    cases w with
    | list ys =>
      rw [same, sameAll_iff_map_core each, core, core, coreAll_eq_map, coreAll_eq_map, list.injEq]
    | _ => simp [same, core]

theorem same_list_iff (xs ys : List Value) :
    (list xs).same (list ys) = true ↔
      xs.length = ys.length ∧ ∀ x y, (x, y) ∈ xs.zip ys → x.same y = true := by
  rw [same_iff_core, core, core, list.injEq, coreAll_eq_map, coreAll_eq_map,
    ← List.forall₂_eq_eq_eq, List.forall₂_map_left_iff, List.forall₂_map_right_iff,
    List.forall₂_iff_zip]
  simp only [same_iff_core]

theorem same_eq_false_of_kind {v w : Value} (differ : v.kind ≠ w.kind) : v.same w = false := by
  rw [← Bool.not_eq_true, same_iff_core]
  intro agree
  apply differ
  rw [← v.kind_core, agree, w.kind_core]

theorem Compares.same_eq {v w : Value} {answer : Bool} (compares : v.Compares w answer) :
    v.same w = answer := by
  induction compares with
  | identical v => exact v.same_self
  | kinds differ => exact same_eq_false_of_kind differ
  | bools a b => rw [same]
  | numbers apart => rw [same, Number.same_of_apart apart]
  | symbols s t =>
    rw [same, Bool.eq_iff_iff, beq_iff_eq, beq_iff_eq]
    exact ⟨congrArg Symbol.name, congrArg Symbol.mk⟩
  | texts a b => rw [same]
  | primitives apart => rw [same, beq_eq_false_iff_ne.mpr apart]
  | functions =>
    rw [same, Bool.eq_iff_iff]
    simp [and_assoc]
  | lengths differ =>
    rw [← Bool.not_eq_true, same_list_iff]
    exact fun both => differ both.1
  | equals long _ ih => exact (same_list_iff _ _).mpr ⟨long, ih⟩
  | differs _ pair _ ih =>
    rw [← Bool.not_eq_true, same_list_iff]
    intro both
    rw [both.2 _ _ pair] at ih
    cases ih

theorem exists_compares_list {xs : List Value}
    (each : ∀ x ∈ xs, ∀ y, ∃ answer, x.Compares y answer) (ys : List Value) :
    ∃ answer, (list xs).Compares (list ys) answer := by
  by_cases long : xs.length = ys.length
  · by_cases equal : ∀ x y, (x, y) ∈ xs.zip ys → x.Compares y true
    · exact ⟨true, .equals long equal⟩
    · push Not at equal
      obtain ⟨x, y, pair, refused⟩ := equal
      obtain ⟨answer, compares⟩ := each x (List.of_mem_zip pair).1 y
      cases answer with
      | false => exact ⟨false, .differs long pair compares⟩
      | true => exact absurd compares refused
  · exact ⟨false, .lengths long⟩

theorem exists_compares : ∀ v w : Value, ∃ answer, v.Compares w answer := by
  apply list_induction
  · intro v leaf w
    by_cases kinds : v.kind = w.kind
    · cases v <;> cases w <;> cases kinds
      · exact ⟨_, .identical _⟩
      · exact ⟨_, .bools _ _⟩
      · next x y =>
        by_cases apart : ∀ mark, x = .nan mark → y ≠ .nan mark
        · exact ⟨_, .numbers apart⟩
        · push Not at apart
          obtain ⟨mark, rfl, rfl⟩ := apart
          exact ⟨_, .identical _⟩
      · exact ⟨_, .symbols _ _⟩
      · exact ⟨_, .texts _ _⟩
      · cases leaf
      · next p q =>
        by_cases one : p = q
        · subst one
          exact ⟨_, .identical _⟩
        · exact ⟨_, .primitives one⟩
      · exact ⟨_, .functions⟩
    · exact ⟨_, .kinds kinds⟩
  · intro xs each w
    cases w with
    | list ys => exact exists_compares_list each ys
    | _ => exact ⟨false, .kinds (by simp [kind])⟩

theorem compares_iff (v w : Value) (answer : Bool) : v.Compares w answer ↔ v.same w = answer := by
  constructor
  · exact Compares.same_eq
  · rintro rfl
    obtain ⟨answer, compares⟩ := exists_compares v w
    rwa [compares.same_eq]

/-- Equality is an equivalence, on lists it is equality of the items by position, and every way of
comparing two values gives its answer. -/
theorem equal_equivalence :
    Equivalence (fun v w : Value => v.equal w = true) ∧
      (∀ xs ys : List Value, (list xs).equal (list ys) = true ↔
        xs.length = ys.length ∧ ∀ x y, (x, y) ∈ xs.zip ys → x.equal y = true) ∧
      (∀ (v w : Value) (answer : Bool), v.Compares w answer ↔ v.equal w = answer) ∧
      (∀ (x : Number) (b : Bool), (number x).equal (bool b) = false) ∧
      nil.equal (list []) = false := by
  simp only [equal_eq_same]
  refine ⟨⟨same_self, ?_, ?_⟩, same_list_iff, compares_iff, fun _ _ => ?_, ?_⟩
  · intro v w
    rw [same_iff_core, same_iff_core]
    exact Eq.symm
  · intro u v w
    rw [same_iff_core, same_iff_core, same_iff_core]
    exact Eq.trans
  · exact same_eq_false_of_kind (by simp [kind])
  · exact same_eq_false_of_kind (by simp [kind])

end Value

end PocketLisp
