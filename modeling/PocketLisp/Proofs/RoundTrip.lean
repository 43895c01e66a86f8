import PocketLisp.Value.Print
import PocketLisp.Value.Shared
import PocketLisp.Proofs.Data
import PocketLisp.Proofs.PrintedNumber
import PocketLisp.Proofs.Word

set_option autoImplicit false

namespace PocketLisp

def Number.readBack : Number → Value
  | .finite negative rank => .number (.finite negative rank)
  | .infinite negative => .symbol ⟨if negative then "-infinity" else "infinity"⟩
  | .nan _ => .symbol ⟨"nan"⟩

mutual

def Value.readBack : Value → Value
  | .nil => .symbol ⟨"nil"⟩
  | .bool b => .symbol ⟨if b then "t" else "nil"⟩
  | .number x => x.readBack
  | .list items => .list (Value.readBackAll items)
  | v => v

def Value.readBackAll : List Value → List Value
  | [] => []
  | v :: rest => v.readBack :: Value.readBackAll rest

end

mutual

def Value.tokens : Value → List Token
  | .list items => .lparen :: (Value.tokensAll items ++ [.rparen])
  | v => [.word v.print]

def Value.tokensAll : List Value → List Token
  | [] => []
  | v :: rest => v.tokens ++ Value.tokensAll rest

end

/-- Data that is kept whole by its printed form: finite numbers, symbols and lists of such. -/
inductive Value.Plain : Value → Prop where
  | number (negative : Bool) (rank : Fin overflowRank) : Plain (.number (.finite negative rank))
  | symbol (s : Symbol) : Plain (.symbol s)
  | list {items : List Value} (each : ∀ v ∈ items, Plain v) : Plain (.list items)

theorem Value.readBackAll_eq {items : List Value} (each : ∀ v ∈ items, v.readBack = v) :
    Value.readBackAll items = items := by
  induction items with
  | nil => simp [Value.readBackAll]
  | cons v rest ih =>
    have tail := ih fun w member => each w (List.mem_cons_of_mem v member)
    rw [Value.readBackAll, tail, each v List.mem_cons_self]

theorem Value.Plain.readBack {v : Value} (plain : v.Plain) : v.readBack = v := by
  induction plain with
  | number negative rank => simp [Value.readBack, Number.readBack]
  | symbol s => simp [Value.readBack]
  | list each ih => rw [Value.readBack, Value.readBackAll_eq ih]

structure Value.Atomic (v : Value) : Prop where
  leaf : v.isList = false
  word : Token.Word v.print.toList
  reads : (Reader.readWord v.print).same v.readBack = true

section Atoms

theorem Value.tokens_leaf {v : Value} (leaf : v.isList = false) : v.tokens = [.word v.print] := by
  cases v with
  | list items => cases leaf
  | _ => simp [Value.tokens]

theorem Value.depth_leaf {v : Value} (leaf : v.isList = false) : v.depth = 1 := by
  cases v with
  | list items => cases leaf
  | _ => simp [Value.depth]

-- Values without a notation of their own are printed as the name of a symbol.
theorem Value.atomic_named {v : Value} (text name : String) (leaf : v.isList = false)
    (printed : v.print = text) (named : v.readBack = .symbol ⟨name⟩)
    (word : Token.Word text.toList) (read : Reader.readWord text = .symbol ⟨name⟩) : v.Atomic where
  leaf := leaf
  word := by rwa [printed]
  reads := by
    rw [printed, named, read]
    exact Value.same_self _

theorem Number.same_of_place {a b : Number} {place : Int} (first : a.place = some place)
    (second : b.place = some place) : a.same b = true := by
  simp [Number.same, Number.equal, Number.compareBy, first, second]

theorem Value.atomic_finite (negative : Bool) (rank : Fin overflowRank) :
    (Value.number (.finite negative rank)).Atomic where
  leaf := rfl
  word := by
    obtain ⟨d, written, -⟩ := printedNumber.write_denotes negative rank
    rw [Value.print, Number.print_eq_write]
    exact written.word
  reads := by
    -- Only a zero can lose its sign, and the zeros have one place.
    have place : (Number.finite (negative && rank.val != 0) rank).place =
        (Number.finite negative rank).place := by
      by_cases zero : rank.val = 0 <;> simp [Number.place, zero]
    have read := printedNumber.number?_write negative rank
    rw [Value.print, Value.readBack, Number.readBack, Reader.readWord,
      Number.print_eq_write, read]
    simp only [Value.same]
    exact Number.same_of_place place rfl

theorem Value.atomic_number (x : Number) : (Value.number x).Atomic := by
  cases x with
  | finite negative rank => exact atomic_finite negative rank
  | infinite negative =>
    cases negative with
    | false =>
      exact atomic_named "Infinity" "infinity" rfl rfl rfl (.of_all (by decide) (by decide)) rfl
    | true =>
      exact atomic_named "-Infinity" "-infinity" rfl rfl rfl (.of_all (by decide) (by decide)) rfl
  | nan mark => exact atomic_named "NaN" "nan" rfl rfl rfl (.of_all (by decide) (by decide)) rfl

theorem Value.atomic_bool (b : Bool) : (Value.bool b).Atomic := by
  cases b with
  | false => exact atomic_named "NIL" "nil" rfl rfl rfl (.of_all (by decide) (by decide)) rfl
  | true => exact atomic_named "T" "t" rfl rfl rfl (.of_all (by decide) (by decide)) rfl

theorem Value.atomic_nil : Value.nil.Atomic :=
  atomic_named "NIL" "nil" rfl rfl rfl (.of_all (by decide) (by decide)) rfl

theorem Value.atomic_symbol {s : Symbol} (readable : s.Readable) : (Value.symbol s).Atomic := by
  have readBack : (Value.symbol s).readBack = .symbol s := by simp [Value.readBack]
  exact atomic_named s.print s.name rfl rfl readBack (Symbol.print_word readable.word)
    readable.readWord_print

theorem Value.Data.readable_induction {motive : Value → Prop}
    (atom : ∀ v : Value, v.Atomic → motive v)
    (list : ∀ items, (∀ v ∈ items, motive v) → motive (.list items)) {v : Value}
    (data : v.Data Symbol.Readable) : motive v := by
  induction data with
  | nil => exact atom _ Value.atomic_nil
  | bool b => exact atom _ (Value.atomic_bool b)
  | number x => exact atom _ (Value.atomic_number x)
  | symbol readable => exact atom _ (Value.atomic_symbol readable)
  | list each ih => exact list _ ih

end Atoms

section Scanning

open Token

def Value.Scans (v : Value) : Prop :=
  ∀ rest, Breaks rest → scanFrom [] (v.print.toList ++ rest) = v.tokens ++ scanFrom [] rest

theorem Value.scans_leaf {v : Value} (leaf : v.isList = false) (word : Word v.print.toList) :
    v.Scans := by
  intro rest breaks
  rw [scanFrom_word word breaks, String.ofList_toList, Value.tokens_leaf leaf]
  rfl

theorem Value.Atomic.scans {v : Value} (atomic : v.Atomic) : v.Scans :=
  Value.scans_leaf atomic.leaf atomic.word

theorem breaks_cons {c : Char} (breaks : ¬ Solid c) (rest : List Char) : Breaks (c :: rest) := by
  intro d first
  obtain rfl : c = d := Option.some.inj first
  exact breaks

theorem Value.scans_items {items : List Value} (each : ∀ v ∈ items, v.Scans) {rest : List Char}
    (breaks : Breaks rest) :
    scanFrom [] ((" ".intercalate (Value.printAll items)).toList ++ rest) =
      Value.tokensAll items ++ scanFrom [] rest := by
  induction items with
  | nil => simp [Value.printAll, Value.tokensAll]
  | cons v items ih =>
    have first := each v List.mem_cons_self
    have later := ih fun w member => each w (List.mem_cons_of_mem v member)
    cases items with
    | nil => simpa [Value.printAll, Value.tokensAll] using first rest breaks
    | cons w items =>
      -- The space ends the first item and makes no token itself.
      have blank : ∀ others, scanFrom [] (' ' :: others) = scanFrom [] others := fun _ => rfl
      have read := first _ (breaks_cons (show ¬ Solid ' ' by decide)
        ((" ".intercalate (Value.printAll (w :: items))).toList ++ rest))
      rw [blank, later] at read
      rw [Value.tokensAll, List.append_assoc, ← read, Value.printAll, Value.printAll,
        String.intercalate_cons_cons]
      simp

theorem Value.scans_list {items : List Value} (each : ∀ v ∈ items, v.Scans) :
    (Value.list items).Scans := by
  intro rest _
  have closing := breaks_cons (show ¬ Solid ')' by decide) rest
  have opened : ∀ inner, scanFrom [] ('(' :: inner) = .lparen :: scanFrom [] inner := fun _ => rfl
  have closed : scanFrom [] (')' :: rest) = .rparen :: scanFrom [] rest := rfl
  calc scanFrom [] ((Value.list items).print.toList ++ rest)
      = scanFrom [] ('(' :: ((" ".intercalate (Value.printAll items)).toList ++ ')' :: rest)) := by
        simp [Value.print]
    _ = .lparen :: (Value.tokensAll items ++ .rparen :: scanFrom [] rest) := by
        rw [opened, Value.scans_items each closing, closed]
    _ = (Value.list items).tokens ++ scanFrom [] rest := by simp [Value.tokens]

theorem Value.Data.scans {v : Value} (data : v.Data Symbol.Readable) : v.Scans :=
  data.readable_induction (fun _ atomic => atomic.scans) fun _ each => Value.scans_list each

end Scanning

section Reading

open Reader

def Value.Reads (depth : Nat) (v : Value) : Prop :=
  ∀ rest, ∃ w, readOne depth (v.tokens ++ rest) = .ok (w, rest) ∧ w.same v.readBack = true

theorem Value.Atomic.reads_atom {v : Value} (atomic : v.Atomic) {depth : Nat}
    (deep : v.depth ≤ depth) : v.Reads depth := by
  intro rest
  rw [Value.depth_leaf atomic.leaf] at deep
  obtain ⟨depth, rfl⟩ := Nat.exists_eq_add_of_le' deep
  rw [Value.tokens_leaf atomic.leaf]
  exact ⟨Reader.readWord v.print, rfl, atomic.reads⟩

-- An item is never mistaken for the end of its list.
theorem Value.tokens_cons (v : Value) :
    ∃ token rest, v.tokens = token :: rest ∧ token ≠ .rparen := by
  cases v with
  | list items => exact ⟨.lparen, _, by rw [Value.tokens], by decide⟩
  | _ => exact ⟨.word _, [], Value.tokens_leaf rfl, by simp⟩

theorem Value.length_le_tokensAll (items : List Value) :
    items.length ≤ (Value.tokensAll items).length := by
  induction items with
  | nil => exact Nat.zero_le _
  | cons v items ih =>
    obtain ⟨token, rest, same, -⟩ := v.tokens_cons
    rw [Value.tokensAll, same, List.length_append, List.length_cons, List.length_cons]
    omega

theorem Value.reads_items {depth : Nat} {items : List Value} (each : ∀ v ∈ items, v.Reads depth)
    (rest : List Token) {bound : List Token} (long : items.length < bound.length) :
    ∃ ws, readItems (readOne depth) bound (Value.tokensAll items ++ .rparen :: rest) =
      .ok (ws, rest) ∧ Value.sameAll ws (Value.readBackAll items) = true := by
  induction items generalizing bound with
  | nil =>
    obtain ⟨b, bound, rfl⟩ := List.exists_cons_of_length_pos long
    exact ⟨[], by simp [Value.tokensAll, readItems], by simp [Value.readBackAll, Value.sameAll]⟩
  | cons v items ih =>
    obtain ⟨b, bound, rfl⟩ := List.exists_cons_of_length_pos (Nat.zero_lt_of_lt long)
    obtain ⟨w, first, same⟩ := each v List.mem_cons_self
      (Value.tokensAll items ++ .rparen :: rest)
    obtain ⟨ws, later, sameAll⟩ := ih (fun u member => each u (List.mem_cons_of_mem v member))
      (Nat.lt_of_succ_lt_succ long)
    obtain ⟨token, tokens, start, other⟩ := v.tokens_cons
    refine ⟨w :: ws, ?_, by simp [Value.readBackAll, Value.sameAll, same, sameAll]⟩
    rw [start, List.cons_append] at first
    rw [Value.tokensAll, List.append_assoc, start, List.cons_append, readItems, first]
    · simp [later, bind, Except.bind, pure, Except.pure]
    · simp
    · intro tail same
      exact other (List.cons.inj same).1

theorem Value.depth_le_depthAll {items : List Value} {v : Value} (member : v ∈ items) :
    v.depth ≤ Value.depthAll items := by
  induction items with
  | nil => cases member
  | cons w items ih =>
    rw [Value.depthAll]
    rcases List.mem_cons.mp member with rfl | later
    · exact Nat.le_max_left ..
    · exact (ih later).trans (Nat.le_max_right ..)

theorem Value.reads_list {items : List Value}
    (each : ∀ v ∈ items, ∀ depth, v.depth ≤ depth → v.Reads depth) {depth : Nat}
    (deep : (Value.list items).depth ≤ depth) : (Value.list items).Reads depth := by
  intro rest
  rw [Value.depth] at deep
  obtain ⟨depth, rfl⟩ := Nat.exists_eq_add_of_le' (Nat.le_of_add_left_le deep)
  have inner : ∀ v ∈ items, v.Reads depth := fun v member =>
    each v member depth ((Value.depth_le_depthAll member).trans (Nat.le_of_succ_le_succ deep))
  -- The whole of the tokens bounds the items, which take at least a token each.
  have long : items.length <
      (Token.lparen :: (Value.tokensAll items ++ .rparen :: rest)).length := by
    have items_le := Value.length_le_tokensAll items
    rw [List.length_cons, List.length_append]
    omega
  obtain ⟨ws, read, same⟩ := Value.reads_items inner rest long
  refine ⟨.list ws, ?_, by rw [Value.readBack, Value.same, same]⟩
  rw [Value.tokens, List.cons_append, List.append_assoc, List.singleton_append, readOne, read]
  rfl

theorem Value.Data.reads {v : Value} (data : v.Data Symbol.Readable) :
    ∀ depth, v.depth ≤ depth → v.Reads depth :=
  data.readable_induction (fun _ atomic _ deep => atomic.reads_atom deep)
    fun _ each _ deep => Value.reads_list each deep

theorem Value.Reads.readAll {depth : Nat} {v : Value} (reads : v.Reads depth) :
    ∃ w, readAll depth v.tokens = .ok [w] ∧ w.same v.readBack = true := by
  obtain ⟨w, read, same⟩ := reads []
  obtain ⟨token, rest, start, -⟩ := v.tokens_cons
  rw [List.append_nil, start] at read
  refine ⟨w, ?_, same⟩
  rw [Reader.readAll, start, readMany, read]
  · cases rest <;> rfl
  · simp

end Reading

/-- Printed data is read as one expression, equal to what was printed where that is finite numbers,
symbols and lists. -/
theorem read_print {v : Value} (data : v.Data Symbol.Readable) {depth : Nat}
    (deep : v.depth ≤ depth) :
    ∃ w, Reader.read depth v.print = .ok [w] ∧ w.equal v.readBack = true ∧
      (v.Plain → w.equal v = true) := by
  have scanned : Token.scan v.print = v.tokens := by
    have whole := data.scans [] (by simp [Token.Breaks])
    simpa [Token.scan, Token.scanFrom, Token.pending] using whole
  obtain ⟨w, read, same⟩ := (data.reads depth deep).readAll
  refine ⟨w, ?_, ?_, ?_⟩
  · rw [Reader.read, scanned, read]
  · rw [Value.equal_eq_same, same]
  · intro plain
    rw [plain.readBack] at same
    rw [Value.equal_eq_same, same]

-- The capitals of the symbol would not be undone, the number is the least there is, and the
-- other atoms are printed by name.
theorem read_print_nested :
    let v : Value := .list [.symbol ⟨"straße"⟩, .number (.finite true ⟨1, by decide⟩),
      .list [.bool true, .nil, .number (.infinite true), .list []]]
    v.Data Symbol.Readable ∧ v.depth ≤ 3 ∧
      ∃ w, Reader.read 3 v.print = .ok [w] ∧ w.equal v.readBack = true ∧
        (v.Plain → w.equal v = true) := by
  intro v
  have readable : Symbol.Readable ⟨"straße"⟩ :=
    ⟨.of_all (by decide) (by decide), by decide +kernel, Literal.number?_eq_none.mp rfl⟩
  have data : v.Data Symbol.Readable := by
    refine .list ?_
    simp only [List.forall_mem_cons, List.not_mem_nil, false_implies, implies_true, and_true]
    refine ⟨.symbol readable, .number _, .list ?_⟩
    simp only [List.forall_mem_cons, List.not_mem_nil, false_implies, implies_true, and_true]
    exact ⟨.bool _, .nil, .number _, .list (by simp)⟩
  have deep : v.depth ≤ 3 := by simp [v, Value.depth, Value.depthAll]
  exact ⟨data, deep, read_print data deep⟩

end PocketLisp
