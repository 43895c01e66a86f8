import PocketLisp.Proofs.Equality
import PocketLisp.Proofs.RoundTrip

set_option autoImplicit false

namespace PocketLisp

theorem Number.print_core (x : Number) : x.core.print = x.print := by
  cases x with
  | finite negative rank =>
    rw [core, print_eq_iff, equal_finite_iff]
    by_cases zero : rank.val = 0
    · exact ⟨rfl, Or.inl zero⟩
    · have shown : (rank.val != 0) = true := bne_iff_ne.mpr zero
      exact ⟨rfl, Or.inr (by rw [shown, Bool.and_true])⟩
  | infinite negative => rfl
  | nan mark => rfl

namespace Value

theorem printAll_eq_map (items : List Value) : printAll items = items.map print := by
  induction items with
  | nil => rfl
  | cons v rest ih => rw [printAll, ih, List.map_cons]

theorem print_core : ∀ v : Value, v.core.print = v.print := by
  apply list_induction
  · intro v leaf
    cases v with
    | list items => cases leaf
    | number x => rw [core, print, print, x.print_core]
    | function => rw [core, print, print]
    | _ => simp [core]
  · intro items each
    have texts : (items.map core).map print = items.map print := by
      rw [List.map_map]
      exact List.map_congr_left each
    rw [core, print, print, coreAll_eq_map, printAll_eq_map, printAll_eq_map, texts]

theorem print_eq_of_same {v w : Value} (equal : v.same w = true) : v.print = w.print := by
  rw [← v.print_core, (same_iff_core v w).mp equal, w.print_core]

theorem Data.scan_print {v : Value} (data : v.Data Symbol.Readable) :
    Token.scan v.print = v.tokens := by
  have whole := data.scans [] (by simp [Token.Breaks])
  simpa [Token.scan, Token.scanFrom, Token.pending] using whole

theorem same_of_print_eq {v w : Value} (data : v.Data Symbol.Readable) (plain : v.Plain)
    (data' : w.Data Symbol.Readable) (plain' : w.Plain) (text : v.print = w.print) :
    v.same w = true := by
  have tokens : v.tokens = w.tokens := by rw [← data.scan_print, text, data'.scan_print]
  obtain ⟨u, read, first⟩ := (data.reads _ (Nat.le_max_left v.depth w.depth)).readAll
  obtain ⟨u', read', second⟩ := (data'.reads _ (Nat.le_max_right v.depth w.depth)).readAll
  rw [tokens, read'] at read
  obtain rfl : u' = u := (List.cons.inj (Except.ok.inj read)).1
  rw [plain.readBack, same_iff_core] at first
  rw [plain'.readBack, same_iff_core] at second
  rw [same_iff_core, ← first, second]

end Value

/-- Equal values have one text. Values of finite numbers, readable symbols and lists that have one
text are equal. -/
theorem print_agrees_with_equal (v w : Value) :
    (v.equal w = true → v.print = w.print) ∧
      (v.Data Symbol.Readable → v.Plain → w.Data Symbol.Readable → w.Plain →
        v.print = w.print → v.equal w = true) := by
  rw [Value.equal_eq_same]
  exact ⟨Value.print_eq_of_same, Value.same_of_print_eq⟩

-- The zeros differ in sign, and the symbol keeps the small letter that has no capital of one
-- letter.
theorem print_agrees_with_equal_zeros :
    let zero (negative : Bool) : Value := .number (.finite negative ⟨0, by decide⟩)
    let v : Value := .list [zero false, .list [.symbol ⟨"straße"⟩]]
    let w : Value := .list [zero true, .list [.symbol ⟨"straße"⟩]]
    v.Data Symbol.Readable ∧ v.Plain ∧ w.Data Symbol.Readable ∧ w.Plain ∧
      v.print = w.print ∧ v.equal w = true := by
  intro zero v w
  have readable : Symbol.Readable ⟨"straße"⟩ :=
    ⟨.of_all (by decide) (by decide), by decide +kernel, Literal.number?_eq_none.mp rfl⟩
  have data (negative : Bool) : (Value.list [zero negative, .list [.symbol ⟨"straße"⟩]]).Data
      Symbol.Readable :=
    .list (List.forall_mem_cons.mpr ⟨.number _, List.forall_mem_singleton.mpr
      (.list (List.forall_mem_singleton.mpr (.symbol readable)))⟩)
  have plain (negative : Bool) : (Value.list [zero negative, .list [.symbol ⟨"straße"⟩]]).Plain :=
    .list (List.forall_mem_cons.mpr ⟨.number _ _, List.forall_mem_singleton.mpr
      (.list (List.forall_mem_singleton.mpr (.symbol _)))⟩)
  obtain ⟨alike, equal⟩ := print_agrees_with_equal v w
  have text : v.print = w.print := alike (by rfl)
  exact ⟨data false, plain false, data true, plain true, text,
    equal (data false) (plain false) (data true) (plain true) text⟩

end PocketLisp
