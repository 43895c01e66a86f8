import PocketLisp.Proofs.Environment
import PocketLisp.Proofs.Run

set_option autoImplicit false

namespace PocketLisp

-- How far the scopes other than the global one move, and how far marks do.
structure Relocation where
  scopes : Nat
  marks : Nat

namespace Relocation

variable (r : Relocation)

def scope : Scope → Scope
  | 0 => 0
  | scope + 1 => scope + r.scopes + 1

def number : Number → Number
  | .nan mark => .nan (mark + r.marks)
  | x => x

mutual

def value : Value → Value
  | .nil => .nil
  | .bool b => .bool b
  | .number x => .number (r.number x)
  | .symbol s => .symbol s
  | .text content => .text content
  | .list items => .list (values items)
  | .primitive p => .primitive p
  | .function tag name params body home => .function tag name params (values body) (r.scope home)

def values : List Value → List Value
  | [] => []
  | v :: rest => value v :: values rest

end

def environment (env : Environment) : Environment :=
  ⟨env.bindings.map fun entry => (entry.1, r.value entry.2)⟩

def error : LispError → LispError
  | .unboundName v => .unboundName (r.value v)
  | .notAFunction v => .notAFunction (r.value v)
  | .inapplicable v => .inapplicable (r.value v)
  | .uninterpretable v => .uninterpretable (r.value v)
  | .defunName v => .defunName (r.value v)
  | .notANumber p v => .notANumber p (r.value v)
  | .notAList p v => .notAList p (r.value v)
  | .cannotBind v => .cannotBind (r.value v)
  | e => e

def fault : Fault → Fault
  | .error e => .error (r.error e)
  | .tooDeep => .tooDeep

@[simp] theorem values_eq_map (vs : List Value) : r.values vs = vs.map r.value := by
  induction vs with
  | nil => rfl
  | cons v vs ih => simp [values, ih]

theorem values_eq_self_iff (vs : List Value) : r.values vs = vs ↔ ∀ v ∈ vs, r.value v = v := by
  induction vs with
  | nil => simp
  | cons v vs ih => simp only [values, List.cons.injEq, ih, List.forall_mem_cons]

theorem scope_injective {scope other : Scope} : r.scope scope = r.scope other ↔ scope = other := by
  cases scope <;> cases other <;> simp [Relocation.scope]

section Looks

@[simp] theorem print_number (x : Number) : (r.number x).print = x.print := by
  cases x <;> rfl

@[simp] theorem inspect_number (x : Number) : (r.number x).inspect = x.inspect := by
  cases x <;> rfl

mutual

theorem print_value : (v : Value) → (r.value v).print = v.print
  | .nil | .bool _ | .symbol _ | .text _ | .primitive _ | .function .. => by
    simp [value, Value.print]
  | .number x => by simp [value, Value.print]
  | .list items => by rw [value, Value.print, Value.print, printAll_values items]

theorem printAll_values : (vs : List Value) → Value.printAll (r.values vs) = Value.printAll vs
  | [] => rfl
  | v :: rest => by rw [values, Value.printAll, Value.printAll, print_value v, printAll_values rest]

end

mutual

theorem inspect_value : (v : Value) → (r.value v).inspect = v.inspect
  | .nil | .bool _ | .symbol _ | .text _ | .primitive _ | .function .. => by
    simp [value, Value.inspect]
  | .number x => by simp [value, Value.inspect]
  | .list items => by rw [value, Value.inspect, Value.inspect, inspectAll_values items]

theorem inspectAll_values :
    (vs : List Value) → Value.inspectAll (r.values vs) = Value.inspectAll vs
  | [] => rfl
  | v :: rest => by
    rw [values, Value.inspectAll, Value.inspectAll, inspect_value v, inspectAll_values rest]

end

mutual

theorem depth_value : (v : Value) → (r.value v).depth = v.depth
  | .nil | .bool _ | .number _ | .symbol _ | .text _ | .primitive _ | .function .. => by
    simp [value, Value.depth]
  | .list items => by rw [value, Value.depth, Value.depth, depthAll_values items]

theorem depthAll_values : (vs : List Value) → Value.depthAll (r.values vs) = Value.depthAll vs
  | [] => rfl
  | v :: rest => by rw [values, Value.depthAll, Value.depthAll, depth_value v, depthAll_values rest]

end

theorem display_value (v : Value) : (r.value v).display = v.display := by
  cases v with
  | symbol s => simp only [value]
  | text content => simp only [value]
  | _ => exact inspect_value r _

theorem message_error (e : LispError) : (r.error e).message = e.message := by
  cases e with
  | unboundName v => exact congrArg ("Undefined symbol: " ++ ·) (display_value r v)
  | notAFunction v | inapplicable v =>
    exact congrArg ("Not a function: " ++ ·) (print_value r v)
  | uninterpretable v => exact congrArg ("Cannot evaluate: " ++ ·) (inspect_value r v)
  | defunName v => exact congrArg ("defun name must be a symbol, got " ++ ·) (inspect_value r v)
  | notANumber p v =>
    have printed := print_value r v
    exact congrArg ("All arguments to " ++ p.name ++ " must be numbers, got " ++ ·) printed
  | notAList p v => exact congrArg (p.name ++ " expects a list, got " ++ ·) (print_value r v)
  | cannotBind v => exact congrArg ("Cannot bind " ++ · ++ ": not a symbol") (inspect_value r v)
  | _ => rfl

theorem kind_error (e : LispError) : (r.error e).kind = e.kind := by
  cases e <;> rfl

end Looks

@[simp] theorem isTrue_value (v : Value) : (r.value v).isTrue = v.isTrue := by
  cases v <;> rfl

@[simp] theorem isProcedure_value (v : Value) : (r.value v).isProcedure = v.isProcedure := by
  cases v <;> rfl

section Same

theorem number_injective {x y : Number} : r.number x = r.number y ↔ x = y := by
  cases x <;> cases y <;> simp [number]

theorem place_number (x : Number) : (r.number x).place = x.place := by
  cases x <;> rfl

theorem compareBy_number (relation : Int → Int → Bool) (x y : Number) :
    (r.number x).compareBy relation (r.number y) = x.compareBy relation y := by
  rw [Number.compareBy, place_number, place_number, Number.compareBy]

theorem same_number (x y : Number) : (r.number x).same (r.number y) = x.same y := by
  have identical : (r.number x == r.number y) = (x == y) := by
    rw [Bool.eq_iff_iff, beq_iff_eq, beq_iff_eq, number_injective]
  rw [Number.same, Number.same, identical, Number.equal, compareBy_number, Number.equal]

mutual

theorem same_value : (v w : Value) → (r.value v).same (r.value w) = v.same w
  | .nil, w | .bool _, w | .symbol _, w | .text _, w | .primitive _, w => by
    cases w <;> simp only [value, Value.same]
  | .number _, w => by cases w <;> simp only [value, Value.same, same_number]
  | .list xs, .list ys => by rw [value, value, Value.same, Value.same, sameAll_values xs ys]
  | .list _, .nil | .list _, .bool _ | .list _, .number _ | .list _, .symbol _ => by
    simp only [value, Value.same]
  | .list _, .text _ | .list _, .primitive _ | .list _, .function .. => by
    simp only [value, Value.same]
  | .function .., w => by
    cases w <;> simp only [value, Value.same, Bool.beq_eq_decide_eq, scope_injective]

theorem sameAll_values :
    (vs ws : List Value) → Value.sameAll (r.values vs) (r.values ws) = Value.sameAll vs ws
  | v :: vs, w :: ws => by
    rw [values, values, Value.sameAll, Value.sameAll, same_value v w, sameAll_values vs ws]
  | [], [] | [], _ :: _ | _ :: _, [] => by simp [values, Value.sameAll]

end

end Same

section Arithmetic

theorem number_finite (negative : Bool) (rank : Fin overflowRank) :
    r.number (.finite negative rank) = .finite negative rank := rfl

theorem number_infinite (negative : Bool) : r.number (.infinite negative) = .infinite negative :=
  rfl

theorem number_nan (mark : Nat) : r.number (.nan mark) = .nan (mark + r.marks) := rfl

theorem number_ofRank (negative : Bool) (rank : Nat) :
    r.number (.ofRank negative rank) = .ofRank negative rank := by
  unfold Number.ofRank
  split <;> rfl

theorem number_zero : r.number .zero = .zero :=
  number_ofRank r false 0

theorem number_ofNat (n : Nat) : r.number (.ofNat n) = .ofNat n :=
  number_ofRank r false _

theorem number_one : r.number .one = .one :=
  number_ofNat r 1

theorem neg_number (mark : Nat) (x : Number) :
    (r.number x).neg (mark + r.marks) = r.number (x.neg mark) := by
  cases x <;> rfl

theorem add_number (mark : Nat) (x y : Number) :
    (r.number x).add (mark + r.marks) (r.number y) = r.number (x.add mark y) := by
  cases x <;> cases y <;>
    simp only [number_finite, number_infinite, number_nan, Number.add, Number.addFinite,
      Number.ofUnits, apply_ite r.number, number_ofRank]

theorem sub_number (mark : Nat) (x y : Number) :
    (r.number x).sub (mark + r.marks) (r.number y) = r.number (x.sub mark y) := by
  rw [Number.sub, neg_number, add_number, Number.sub]

theorem mul_number (mark : Nat) (x y : Number) :
    (r.number x).mul (mark + r.marks) (r.number y) = r.number (x.mul mark y) := by
  cases x <;> cases y <;>
    simp only [number_finite, number_infinite, number_nan, Number.mul, Number.ofUnits,
      apply_ite r.number, number_ofRank]

theorem div_number (mark : Nat) (x y : Number) :
    (r.number x).div (mark + r.marks) (r.number y) = r.number (x.div mark y) := by
  cases x <;> cases y <;>
    simp only [number_finite, number_infinite, number_nan, Number.div, Number.ofUnits,
      apply_ite r.number, number_ofRank]

theorem foldl_number {op moved : Number → Number → Number}
    (moves : ∀ x y, moved (r.number x) (r.number y) = r.number (op x y)) (x : Number)
    (xs : List Number) : (xs.map r.number).foldl moved (r.number x) = r.number (xs.foldl op x) := by
  rw [List.foldl_map]
  exact List.foldl_hom r.number fun x y => moves x y

end Arithmetic

section Answers

variable {α β γ δ ε : Type}

def answer (error : ε → ε) (value : α → β) : Except ε α → Except ε β
  | .ok a => .ok (value a)
  | .error e => .error (error e)

theorem answer_bind {error : ε → ε} {value : α → γ} {result : β → δ} {m : Except ε α}
    {next : α → Except ε β} {moved : Except ε γ} {later : γ → Except ε δ}
    (first : moved = answer error value m)
    (rest : ∀ a, later (value a) = answer error result (next a)) :
    moved >>= later = answer error result (m >>= next) := by
  subst first
  cases m with
  | ok a => exact rest a
  | error e => rfl

end Answers

section Primitives

variable {r} {p : Primitive} {args : List Value}

theorem expectOne_values {f moved : Value → Primitive.Result}
    (moves : ∀ v, moved (r.value v) = answer r.error r.value (f v)) :
    Primitive.expectOne p (args.map r.value) moved =
      answer r.error r.value (Primitive.expectOne p args f) := by
  match args with
  | [v] => exact moves v
  | [] => rfl
  | _ :: _ :: _ => simp [Primitive.expectOne, answer, error]

theorem expectTwo_values {f moved : Value → Value → Primitive.Result}
    (moves : ∀ v w, moved (r.value v) (r.value w) = answer r.error r.value (f v w)) :
    Primitive.expectTwo p (args.map r.value) moved =
      answer r.error r.value (Primitive.expectTwo p args f) := by
  match args with
  | [v, w] => exact moves v w
  | [] | [_] => rfl
  | _ :: _ :: _ :: _ => simp [Primitive.expectTwo, answer, error]

theorem expectSome_values {f moved : Value → List Value → Primitive.Result}
    (moves : ∀ v rest, moved (r.value v) (rest.map r.value) =
      answer r.error r.value (f v rest)) :
    Primitive.expectSome p (args.map r.value) moved =
      answer r.error r.value (Primitive.expectSome p args f) := by
  cases args with
  | nil => rfl
  | cons v rest => exact moves v rest

theorem expectNumber_value (p : Primitive) (v : Value) :
    Primitive.expectNumber p (r.value v) =
      answer r.error r.number (Primitive.expectNumber p v) := by
  cases v <;> simp only [value, Primitive.expectNumber, answer, error]

theorem expectNumbers_values (p : Primitive) (args : List Value) :
    Primitive.expectNumbers p (args.map r.value) =
      answer r.error (List.map r.number) (Primitive.expectNumbers p args) := by
  induction args with
  | nil => rfl
  | cons v rest ih =>
    refine answer_bind (expectNumber_value p v) fun x => ?_
    exact answer_bind ih fun xs => rfl

theorem expectList_value (p : Primitive) (v : Value) :
    Primitive.expectList p (r.value v) =
      answer r.error (List.map r.value) (Primitive.expectList p v) := by
  cases v <;> simp only [value, values_eq_map, Primitive.expectList, answer, error]

theorem concat_values (p : Primitive) (args : List Value) :
    Primitive.concat p (args.map r.value) =
      answer r.error (List.map r.value) (Primitive.concat p args) := by
  induction args with
  | nil => rfl
  | cons v rest ih =>
    refine answer_bind (expectList_value p v) fun items => ?_
    refine answer_bind ih fun more => ?_
    simp [answer, pure, Except.pure]

theorem quotient_numbers (mark : Nat) (x : Number) (ys : List Number) :
    Primitive.quotient (mark + r.marks) (r.number x) (ys.map r.number) =
      answer r.error r.value (Primitive.quotient mark x ys) := by
  induction ys generalizing x with
  | nil => rfl
  | cons y rest ih =>
    have zero : (r.number y).isZero = y.isZero := by cases y <;> rfl
    simp only [List.map_cons, Primitive.quotient, zero, div_number, ih]
    split <;> rfl

theorem difference_numbers (mark : Nat) (x : Number) (ys : List Number) :
    Primitive.difference (mark + r.marks) (r.number x) (ys.map r.number) =
      r.number (Primitive.difference mark x ys) := by
  cases ys with
  | nil => exact neg_number r mark x
  | cons y rest => exact foldl_number r (sub_number r mark) x (y :: rest)

theorem compare_values (p : Primitive) {relation : Number → Number → Bool}
    (moves : ∀ x y, relation (r.number x) (r.number y) = relation x y) (args : List Value) :
    Primitive.compare p relation (args.map r.value) =
      answer r.error r.value (Primitive.compare p relation args) := by
  refine expectTwo_values fun v w => ?_
  refine answer_bind (expectNumber_value p v) fun x => ?_
  refine answer_bind (expectNumber_value p w) fun y => ?_
  rw [moves]
  rfl

theorem call_values (p : Primitive) (mark : Nat) (args : List Value) :
    p.call (mark + r.marks) (args.map r.value) = answer r.error r.value (p.call mark args) := by
  cases p with
  | add =>
    refine answer_bind (expectNumbers_values _ args) fun xs => ?_
    have sum := foldl_number r (add_number r mark) .zero xs
    rw [number_zero] at sum
    exact congrArg (fun x => Except.ok (Value.number x)) sum
  | mul =>
    refine answer_bind (expectNumbers_values _ args) fun xs => ?_
    have product := foldl_number r (mul_number r mark) .one xs
    rw [number_one] at product
    exact congrArg (fun x => Except.ok (Value.number x)) product
  | sub =>
    refine expectSome_values fun v rest => ?_
    refine answer_bind (expectNumber_value _ v) fun x => ?_
    refine answer_bind (expectNumbers_values _ rest) fun ys => ?_
    exact congrArg (fun x => Except.ok (Value.number x)) (difference_numbers mark x ys)
  | div =>
    refine expectSome_values fun v rest => ?_
    refine answer_bind (expectNumber_value _ v) fun x => ?_
    exact answer_bind (expectNumbers_values _ rest) fun ys => quotient_numbers mark x ys
  | equal =>
    refine expectTwo_values fun v w => ?_
    rw [Value.equal_eq_same, Value.equal_eq_same, same_value]
    rfl
  | less | atMost => exact compare_values _ (compareBy_number r _) args
  | greater | atLeast => exact compare_values _ (fun x y => compareBy_number r _ y x) args
  | list => exact congrArg (fun vs => Except.ok (Value.list vs)) (values_eq_map r args).symm
  | cons =>
    refine expectTwo_values fun v w => ?_
    cases w <;> rfl
  | car =>
    refine expectOne_values fun v => ?_
    refine answer_bind (expectList_value _ v) fun items => ?_
    cases items <;> rfl
  | cdr =>
    refine expectOne_values fun v => ?_
    refine answer_bind (expectList_value _ v) fun items => ?_
    simp [answer, value, pure, Except.pure]
  | length =>
    refine expectOne_values fun v => ?_
    cases v with
    | list items =>
      simp only [value, values_eq_map, List.length_map]
      exact congrArg (fun x => Except.ok (Value.number x)) (number_ofNat r items.length).symm
    | _ => exact congrArg (fun x => Except.ok (Value.number x)) (number_zero r).symm
  | append =>
    refine answer_bind (concat_values _ args) fun items => ?_
    exact congrArg (fun vs => Except.ok (Value.list vs)) (values_eq_map r items).symm
  | null =>
    refine expectOne_values fun v => ?_
    cases v with
    | list items => cases items <;> rfl
    | _ => rfl
  | atom | numberp | symbolp | not =>
    refine expectOne_values fun v => ?_
    cases v <;> rfl
  | and =>
    have all : (args.map r.value).all Value.isTrue = args.all Value.isTrue := by
      simp only [List.all_map, Function.comp_def, isTrue_value]
    exact congrArg (fun b => Except.ok (Value.bool b)) all
  | or =>
    have any : (args.map r.value).any Value.isTrue = args.any Value.isTrue := by
      simp only [List.any_map, Function.comp_def, isTrue_value]
    exact congrArg (fun b => Except.ok (Value.bool b)) any
  | print => rfl

theorem printed_values (p : Primitive) (args : List Value) :
    p.printed (args.map r.value) = p.printed args := by
  rw [Primitive.printed, Primitive.printed, ← values_eq_map, printAll_values]

theorem reach_values (p : Primitive) (args : List Value) :
    p.reach (args.map r.value) = p.reach args := by
  rw [Primitive.reach, Primitive.reach, ← values_eq_map, depthAll_values]

end Primitives

section Environments

theorem get?_environment (env : Environment) (s : Symbol) :
    (r.environment env).get? s = (env.get? s).map r.value := by
  rcases env with ⟨bindings⟩
  simp only [environment, Environment.get?]
  induction bindings with
  | nil => rfl
  | cons entry rest ih =>
    obtain ⟨t, v⟩ := entry
    simp only [List.map_cons, Environment.lookup_entry, ih]
    split <;> rfl

theorem environment_define (env : Environment) (s : Symbol) (v : Value) :
    r.environment (env.define s v) = (r.environment env).define s (r.value v) := by
  rcases env with ⟨bindings⟩
  simp only [environment, Environment.define]
  congr 1
  induction bindings with
  | nil => rfl
  | cons entry rest ih =>
    simp only [Environment.put, List.map_cons]
    split
    · rfl
    · rw [List.map_cons, ih]

theorem environment_undefine (env : Environment) (s : Symbol) :
    r.environment (env.undefine s) = (r.environment env).undefine s := by
  simp [environment, Environment.undefine, List.filter_map, Function.comp_def]

theorem environment_bindParams (env : Environment) (params : List Symbol) (args : List Value) :
    r.environment (env.bindParams params args) =
      (r.environment env).bindParams params (args.map r.value) := by
  induction params generalizing env args with
  | nil => rfl
  | cons p ps ih =>
    cases args with
    | nil => simp only [Environment.bindParams, List.map_nil, ih, environment_undefine]
    | cons v vs => simp only [Environment.bindParams, List.map_cons, ih, environment_define]

theorem environment_eq_self {env : Environment} (nodup : env.names.Nodup)
    (fixed : env.Every fun _ v => r.value v = v) : r.environment env = env := by
  rcases env with ⟨bindings⟩
  have entries : ∀ entry ∈ bindings, (entry.1, r.value entry.2) = entry := by
    rintro ⟨s, v⟩ member
    obtain ⟨before, after, rfl⟩ := List.append_of_mem member
    -- No other entry has the name, so looking it up finds this one.
    have first : ∀ entry ∈ before, s != entry.1 := by
      intro entry earlier
      simp only [Environment.names, List.map_append, List.map_cons] at nodup
      have differ := (List.nodup_append.mp nodup).2.2 _ (List.mem_map_of_mem earlier) s (by simp)
      exact bne_iff_ne.mpr differ.symm
    have bound : (before ++ (s, v) :: after).lookup s = some v :=
      List.lookup_eq_some_iff.mpr ⟨before, after, rfl, first⟩
    rw [fixed s v bound]
  simp only [environment]
  rw [List.map_congr_left entries, List.map_id']

end Environments

end Relocation

end PocketLisp
