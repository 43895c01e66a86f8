import PocketLisp.Proofs.Grammar

set_option autoImplicit false

namespace PocketLisp.Reader

section Walking

variable {α : Type} {depth i : Nat} {tokens : List Token}

def placed (tokens : List Token) (read : α × List Token) : α × Nat :=
  (read.1, tokens.length - read.2.length)

theorem placed_eq {a : α} {rest : List Token} {next : Nat} (behind : tokens.drop next = rest)
    (inside : next ≤ tokens.length) : placed tokens (a, rest) = (a, next) := by
  rw [placed, ← behind, List.length_drop, Nat.sub_sub_self inside]

theorem drop_placed {v : Value} {rest : List Token}
    (read : readOne depth (tokens.drop i) = .ok (v, rest)) :
    tokens.drop (tokens.length - rest.length) = rest := by
  obtain ⟨used, split, -⟩ := readOne_eq_ok.mp read
  have suffix : rest <:+ tokens :=
    (List.suffix_append used rest).trans (split ▸ List.drop_suffix i tokens)
  exact (List.suffix_iff_eq_drop.mp suffix).symm

-- A token is seen at a place if what is left there begins with it.
theorem seen_of_drop {token : Token} {rest : List Token} (left : tokens.drop i = token :: rest) :
    tokens[i]? = some token ∧ tokens.drop (i + 1) = rest ∧ i + 1 ≤ tokens.length := by
  have inside := congrArg List.length left
  rw [List.length_drop, List.length_cons] at inside
  refine ⟨?_, ?_, by omega⟩
  · rw [← List.head?_drop, left, List.head?_cons]
  · rw [← List.tail_drop, left, List.tail_cons]

theorem unseen_of_drop (left : tokens.drop i = []) : tokens[i]? = none := by
  rw [← List.head?_drop, left, List.head?_nil]

-- The reader that moves a place against the one that takes the list apart.
variable (walks : ∀ i,
  readAt depth tokens i = (readOne depth (tokens.drop i)).map (placed tokens))

include walks

theorem itemsAt_eq {bound : Nat} {spare : List Token} (long : (tokens.drop i).length < bound)
    (enough : (tokens.drop i).length < spare.length) :
    itemsAt tokens (readAt depth tokens) bound i =
      (readItems (readOne depth) spare (tokens.drop i)).map (placed tokens) := by
  induction bound generalizing i spare with
  | zero => exact absurd long (Nat.not_lt_zero _)
  | succ bound ih =>
    obtain ⟨b, spare, rfl⟩ := List.exists_cons_of_length_pos (Nat.zero_lt_of_lt enough)
    rcases empty_or_closed_or_starts (tokens.drop i) with
      left | ⟨rest, left⟩ | ⟨token, rest, left, opened⟩
    · rw [itemsAt, unseen_of_drop left, left]
      rfl
    · obtain ⟨seen, behind, inside⟩ := seen_of_drop left
      rw [itemsAt, seen, left]
      exact congrArg Except.ok (placed_eq behind inside).symm
    · have step : itemsAt tokens (readAt depth tokens) (bound + 1) i = do
          let read ← readAt depth tokens i
          let more ← itemsAt tokens (readAt depth tokens) bound read.2
          return (read.1 :: more.1, more.2) := by
        rw [itemsAt, (seen_of_drop left).1]
        cases token with
        | rparen => exact absurd rfl opened
        | _ => rfl
      rw [step, walks, readItems.eq_4 _ _ _ _ (by simp [left]) (by simp [left, opened])]
      cases read : readOne depth (tokens.drop i) with
      | error fault => rfl
      | ok result =>
        -- What is left after an item is shorter, so both bounds still suffice.
        have shorter := readOne_shrinks read
        have later := drop_placed read
        rw [List.length_cons] at enough
        have items := @ih (tokens.length - result.2.length) spare
          (by rw [later]; omega) (by rw [later]; omega)
        rw [later] at items
        change (itemsAt _ _ bound (tokens.length - result.2.length) >>= _) =
          Except.map _ (readItems _ spare result.2 >>= _)
        rw [items]
        cases readItems (readOne depth) spare result.2 <;> rfl

theorem quotedAt_eq (i : Nat) : quotedAt tokens (readAt depth tokens) i =
    (readQuoted (readOne depth) (tokens.drop i)).map (placed tokens) := by
  rcases empty_or_closed_or_starts (tokens.drop i) with
    left | ⟨rest, left⟩ | ⟨token, rest, left, opened⟩
  · rw [quotedAt, unseen_of_drop left, left]
    rfl
  · rw [quotedAt, (seen_of_drop left).1, left]
    rfl
  · have step : quotedAt tokens (readAt depth tokens) i = do
        let read ← readAt depth tokens i
        return (.list [.symbol ⟨"quote"⟩, read.1], read.2) := by
      rw [quotedAt, (seen_of_drop left).1]
      cases token with
      | rparen => exact absurd rfl opened
      | _ => rfl
    rw [step, walks, readQuoted.eq_3 _ _ (by simp [left]) (by simp [left, opened])]
    cases readOne depth (tokens.drop i) <;> rfl

end Walking

/-- Moving a place along a token list reads what taking the list apart from that place on does. -/
theorem readAt_eq_readOne (depth : Nat) (tokens : List Token) (i : Nat) :
    readAt depth tokens i = (readOne depth (tokens.drop i)).map (placed tokens) := by
  induction depth generalizing i with
  | zero =>
    rcases left : tokens.drop i with _ | ⟨token, rest⟩
    · rw [readAt, unseen_of_drop left]
      rfl
    · rw [readAt, (seen_of_drop left).1]
      rfl
  | succ depth ih =>
    rcases left : tokens.drop i with _ | ⟨token, rest⟩
    · rw [readAt, unseen_of_drop left]
      rfl
    · obtain ⟨seen, behind, inside⟩ := seen_of_drop left
      rw [readAt, seen]
      cases token with
      | rparen => rfl
      | word text => exact congrArg Except.ok (placed_eq behind inside).symm
      | quote =>
        have quoted := quotedAt_eq ih (i + 1)
        rw [behind] at quoted
        exact quoted
      | lparen =>
        have short : (tokens.drop (i + 1)).length < tokens.length := by
          rw [List.length_drop]
          omega
        have items := itemsAt_eq ih short
          (show (tokens.drop (i + 1)).length < (Token.lparen :: rest).length by simp [behind])
        rw [behind] at items
        change (itemsAt _ _ _ (i + 1) >>= _) = Except.map _ (readItems _ _ rest >>= _)
        rw [items]
        cases readItems (readOne depth) (.lparen :: rest) rest <;> rfl

section Places

variable {depth i j : Nat} {tokens : List Token} {v : Value}

theorem drop_eq_extract_append (tokens : List Token) (ordered : i ≤ j) :
    tokens.drop i = tokens.extract i j ++ tokens.drop j := by
  have behind : (tokens.drop i).drop (j - i) = tokens.drop j := by
    rw [List.drop_drop, Nat.add_sub_of_le ordered]
  rw [List.extract_eq_take_drop, ← behind, List.take_append_drop]

theorem length_extract (inside : j ≤ tokens.length) : (tokens.extract i j).length = j - i := by
  rw [List.extract_eq_take_drop, List.length_take, List.length_drop]
  omega

theorem map_placed_eq_ok {read : Except Fault (Value × List Token)} :
    read.map (placed tokens) = .ok (v, j) ↔
      ∃ rest, read = .ok (v, rest) ∧ tokens.length - rest.length = j := by
  constructor
  · intro mapped
    cases read with
    | error fault => cases mapped
    | ok result =>
      cases mapped
      exact ⟨result.2, rfl, rfl⟩
  · rintro ⟨rest, rfl, rfl⟩
    rfl

theorem readAt_eq_ok : readAt depth tokens i = .ok (v, j) ↔
    i < j ∧ j ≤ tokens.length ∧ Derives (tokens.extract i j) v ∧ v.depth ≤ depth := by
  rw [readAt_eq_readOne, map_placed_eq_ok]
  constructor
  · rintro ⟨rest, read, rfl⟩
    obtain ⟨used, split, derives, shallow⟩ := readOne_eq_ok.mp read
    have some := derives.length_pos
    have lengths := congrArg List.length split
    rw [List.length_drop, List.length_append] at lengths
    have taken : tokens.length - rest.length - i = used.length := by omega
    have between : tokens.extract i (tokens.length - rest.length) = used := by
      rw [List.extract_eq_take_drop, taken, split, List.take_left]
    exact ⟨by omega, Nat.sub_le .., between ▸ derives, shallow⟩
  · rintro ⟨ordered, inside, derives, shallow⟩
    have split := drop_eq_extract_append tokens (Nat.le_of_lt ordered)
    refine ⟨tokens.drop j, readOne_eq_ok.mpr ⟨_, split, derives, shallow⟩, ?_⟩
    rw [List.length_drop, Nat.sub_sub_self inside]

theorem readAt_of_extract_eq {others : List Token} {k : Nat}
    (read : readAt depth tokens i = .ok (v, j))
    (same : others.extract k (k + (j - i)) = tokens.extract i j) :
    readAt depth others k = .ok (v, k + (j - i)) := by
  obtain ⟨ordered, inside, derives, shallow⟩ := readAt_eq_ok.mp read
  -- The other list is long enough, since the slice that is cut from it is not shortened.
  have lengths := congrArg List.length same
  rw [length_extract inside, List.extract_eq_take_drop, List.length_take, List.length_drop]
    at lengths
  exact readAt_eq_ok.mpr ⟨by omega, by omega, same ▸ derives, shallow⟩

end Places

theorem readAt_eq_map_drop (depth : Nat) (tokens : List Token) (i : Nat) :
    readAt depth tokens i =
      (readAt depth (tokens.drop i) 0).map fun (expr, j) => (expr, j + i) := by
  rw [readAt_eq_readOne, readAt_eq_readOne, List.drop_zero]
  cases read : readOne depth (tokens.drop i) with
  | error fault => rfl
  | ok result =>
    have shorter := readOne_shrinks read
    rw [List.length_drop] at shorter
    have shifted : tokens.length - result.2.length =
        (tokens.drop i).length - result.2.length + i := by
      rw [List.length_drop]
      omega
    exact congrArg (fun place => Except.ok (result.1, place)) shifted

/-- Reading at a place goes forward and stays inside the list. What it reads, it reads from any
other list that holds the same tokens at some place, whatever stands before and behind them. With
the tokens before the place dropped, the outcome is the same, be it an expression or a fault, and
only the next place is counted from the new start. -/
theorem readAt_local (depth : Nat) (tokens : List Token) (i : Nat) :
    (∀ expr j, readAt depth tokens i = .ok (expr, j) →
      i < j ∧ j ≤ tokens.length ∧
        ∀ others k, others.extract k (k + (j - i)) = tokens.extract i j →
          readAt depth others k = .ok (expr, k + (j - i))) ∧
    readAt depth tokens i =
      (readAt depth (tokens.drop i) 0).map fun (expr, j) => (expr, j + i) := by
  refine ⟨?_, readAt_eq_map_drop depth tokens i⟩
  intro expr j read
  obtain ⟨ordered, inside, -⟩ := readAt_eq_ok.mp read
  exact ⟨ordered, inside, fun others k same => readAt_of_extract_eq read same⟩

-- The quoted list of `x '(a b) y` is read in the same way where a list before it is never closed
-- and nothing follows.
theorem readAt_local_quoted :
    let tokens : List Token :=
      [.word "x", .quote, .lparen, .word "a", .word "b", .rparen, .word "y"]
    let others : List Token := [.lparen, .lparen, .quote, .lparen, .word "a", .word "b", .rparen]
    let expr : Value := .list [.symbol ⟨"quote"⟩, .list [readWord "a", readWord "b"]]
    readAt 3 tokens 1 = .ok (expr, 6) ∧
      others.extract 2 7 = tokens.extract 1 6 ∧
      readAt 3 others 2 = .ok (expr, 7) ∧
      readAt 3 (tokens.drop 1) 0 = .ok (expr, 5) := by
  intro tokens others expr
  have read : readAt 3 tokens 1 = .ok (expr, 6) := rfl
  have same : others.extract 2 (2 + (6 - 1)) = tokens.extract 1 6 := rfl
  obtain ⟨-, -, moved⟩ := (readAt_local 3 tokens 1).1 expr 6 read
  exact ⟨read, same, moved others 2 same, rfl⟩

end PocketLisp.Reader
