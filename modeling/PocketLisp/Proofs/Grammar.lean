import PocketLisp.Proofs.RoundTrip

set_option autoImplicit false

namespace PocketLisp

theorem Value.depth_pos (v : Value) : 1 ≤ v.depth := by
  cases v <;> simp [Value.depth]

namespace Reader

mutual

/-- The tokens are one expression: a word, a list in parentheses or a quoted expression. -/
inductive Derives : List Token → Value → Prop
  | word (text : String) : Derives [.word text] (readWord text)
  | list {tokens : List Token} {items : List Value} (inner : DerivesAll tokens items) :
      Derives (.lparen :: (tokens ++ [.rparen])) (.list items)
  | quote {tokens : List Token} {v : Value} (quoted : Derives tokens v) :
      Derives (.quote :: tokens) (.list [.symbol ⟨"quote"⟩, v])

inductive DerivesAll : List Token → List Value → Prop
  | nil : DerivesAll [] []
  | cons {first rest : List Token} {v : Value} {vs : List Value} (one : Derives first v)
      (more : DerivesAll rest vs) : DerivesAll (first ++ rest) (v :: vs)

end

def Starts (tokens : List Token) : Prop :=
  ∃ token rest, tokens = token :: rest ∧ token ≠ .rparen

theorem empty_or_closed_or_starts (tokens : List Token) :
    tokens = [] ∨ (∃ rest, tokens = .rparen :: rest) ∨ Starts tokens := by
  cases tokens with
  | nil => exact .inl rfl
  | cons token rest =>
    by_cases closed : token = .rparen
    · exact .inr (.inl ⟨rest, closed ▸ rfl⟩)
    · exact .inr (.inr ⟨token, rest, rfl, closed⟩)

theorem not_starts_nil : ¬ Starts [] := by
  simp [Starts]

theorem not_starts_rparen (rest : List Token) : ¬ Starts (.rparen :: rest) := by
  simp [Starts]

theorem Derives.starts {tokens : List Token} {v : Value} (derives : Derives tokens v)
    (rest : List Token) : Starts (tokens ++ rest) := by
  cases derives with
  | word text => exact ⟨.word text, rest, rfl, by simp⟩
  | list inner => exact ⟨.lparen, _, rfl, by simp⟩
  | quote quoted => exact ⟨.quote, _, rfl, by simp⟩

theorem Derives.length_pos {tokens : List Token} {v : Value} (derives : Derives tokens v) :
    0 < tokens.length := by
  obtain ⟨token, rest, start, -⟩ := derives.starts []
  rw [List.append_nil] at start
  simp [start]

theorem DerivesAll.length_le {tokens : List Token} {vs : List Value} :
    DerivesAll tokens vs → vs.length ≤ tokens.length
  | .nil => Nat.le_refl 0
  | .cons one more => by
    have first := one.length_pos
    have later := more.length_le
    rw [List.length_cons, List.length_append]
    omega

theorem depth_readWord (text : String) : (readWord text).depth = 1 := by
  unfold readWord
  split <;> simp [Value.depth]

section Steps

-- What each loop of the reader does when it succeeds.
variable {f : List Token → Except Fault (Value × List Token)} {b : Token}
  {bound tokens rest : List Token} {v : Value} {vs : List Value}

theorem bind_eq_ok {α β : Type} {m : Except Fault α} {next : α → Except Fault β} {result : β} :
    (m >>= next) = .ok result ↔ ∃ a, m = .ok a ∧ next a = .ok result := by
  cases m with
  | ok a => exact ⟨fun done => ⟨a, rfl, done⟩, fun ⟨_, same, done⟩ => Except.ok.inj same ▸ done⟩
  | error fault => exact ⟨(nomatch ·), fun ⟨_, same, _⟩ => nomatch same⟩

theorem readQuoted_eq_ok : readQuoted f tokens = .ok (v, rest) ↔
    Starts tokens ∧ ∃ quoted, f tokens = .ok (quoted, rest) ∧
      v = .list [.symbol ⟨"quote"⟩, quoted] := by
  rcases empty_or_closed_or_starts tokens with rfl | ⟨others, rfl⟩ | starts
  · simp [readQuoted, not_starts_nil]
  · simp [readQuoted, not_starts_rparen]
  · obtain ⟨token, others, rfl, opened⟩ := id starts
    rw [readQuoted.eq_3 f _ (by simp) (by simp [opened]), bind_eq_ok]
    constructor
    · rintro ⟨⟨quoted, rest⟩, read, done⟩
      cases done
      exact ⟨starts, quoted, read, rfl⟩
    · rintro ⟨-, quoted, read, rfl⟩
      exact ⟨_, read, rfl⟩

theorem readItems_eq_ok : readItems f (b :: bound) tokens = .ok (vs, rest) ↔
    tokens = .rparen :: rest ∧ vs = [] ∨
      Starts tokens ∧ ∃ v middle others, f tokens = .ok (v, middle) ∧
        readItems f bound middle = .ok (others, rest) ∧ vs = v :: others := by
  rcases empty_or_closed_or_starts tokens with rfl | ⟨others, rfl⟩ | starts
  · simp [readItems, not_starts_nil]
  · simp [readItems, not_starts_rparen, and_comm, eq_comm]
  · obtain ⟨token, others, rfl, opened⟩ := id starts
    rw [readItems.eq_4 f _ _ _ (by simp) (by simp [opened]), bind_eq_ok]
    constructor
    · rintro ⟨⟨v, middle⟩, first, done⟩
      obtain ⟨⟨others, rest⟩, later, done⟩ := bind_eq_ok.mp done
      cases done
      exact .inr ⟨starts, v, middle, others, first, later, rfl⟩
    · rintro (⟨same, -⟩ | ⟨-, v, middle, others, first, later, rfl⟩)
      · exact absurd (List.cons.inj same).1 opened
      · exact ⟨_, first, bind_eq_ok.mpr ⟨_, later, rfl⟩⟩

theorem readMany_eq_ok : readMany f (b :: bound) tokens = .ok vs ↔
    tokens = [] ∧ vs = [] ∨
      tokens ≠ [] ∧ ∃ v middle others, f tokens = .ok (v, middle) ∧
        readMany f bound middle = .ok others ∧ vs = v :: others := by
  cases tokens with
  | nil => simp [readMany, eq_comm]
  | cons token others =>
    rw [readMany, bind_eq_ok]
    · constructor
      · rintro ⟨⟨v, middle⟩, first, done⟩
        obtain ⟨others, later, done⟩ := bind_eq_ok.mp done
        cases done
        exact .inr ⟨by simp, v, middle, others, first, later, rfl⟩
      · rintro (⟨impossible, -⟩ | ⟨-, v, middle, others, first, later, rfl⟩)
        · cases impossible
        · exact ⟨_, first, bind_eq_ok.mpr ⟨_, later, rfl⟩⟩
    · simp

theorem readOne_list_eq_ok {depth : Nat} :
    readOne (depth + 1) (.lparen :: tokens) = .ok (v, rest) ↔
      ∃ items, readItems (readOne depth) (.lparen :: tokens) tokens = .ok (items, rest) ∧
        v = .list items := by
  rw [readOne, bind_eq_ok]
  constructor
  · rintro ⟨⟨items, rest⟩, read, done⟩
    cases done
    exact ⟨items, read, rfl⟩
  · rintro ⟨items, read, rfl⟩
    exact ⟨_, read, rfl⟩

end Steps

section Complete

mutual

theorem Derives.readOne {tokens : List Token} {v : Value} (derives : Derives tokens v) {depth : Nat}
    (deep : v.depth ≤ depth) (rest : List Token) :
    Reader.readOne depth (tokens ++ rest) = .ok (v, rest) := by
  obtain ⟨depth, rfl⟩ := Nat.exists_eq_add_of_le' (Nat.le_trans v.depth_pos deep)
  match derives with
  | .word text => rfl
  | @Derives.list tokens items inner =>
    rw [Value.depth] at deep
    have long : items.length < (Token.lparen :: (tokens ++ .rparen :: rest)).length := by
      have items_le := inner.length_le
      rw [List.length_cons, List.length_append]
      omega
    have read := inner.readItems (Nat.le_of_succ_le_succ deep) long rest
    rw [List.cons_append, List.append_assoc, List.singleton_append]
    exact readOne_list_eq_ok.mpr ⟨items, read, rfl⟩
  | @Derives.quote tokens v quoted =>
    simp only [Value.depth, Value.depthAll] at deep
    have inside : v.depth ≤ depth := by omega
    have read := quoted.readOne inside rest
    exact readQuoted_eq_ok.mpr ⟨quoted.starts rest, v, read, rfl⟩

theorem DerivesAll.readItems {tokens : List Token} {vs : List Value}
    (derives : DerivesAll tokens vs) {depth : Nat} (deep : Value.depthAll vs ≤ depth)
    {bound : List Token} (long : vs.length < bound.length) (rest : List Token) :
    Reader.readItems (Reader.readOne depth) bound (tokens ++ .rparen :: rest) = .ok (vs, rest) := by
  obtain ⟨b, bound, rfl⟩ := List.exists_cons_of_length_pos (Nat.zero_lt_of_lt long)
  match derives with
  | .nil => exact readItems_eq_ok.mpr (.inl ⟨rfl, rfl⟩)
  | @DerivesAll.cons first others v vs one more =>
    rw [Value.depthAll] at deep
    rw [List.append_assoc]
    have read := one.readOne (Nat.le_trans (Nat.le_max_left ..) deep) (others ++ .rparen :: rest)
    have later := more.readItems (Nat.le_trans (Nat.le_max_right ..) deep)
      (Nat.lt_of_succ_lt_succ long) rest
    exact readItems_eq_ok.mpr (.inr ⟨one.starts _, v, _, vs, read, later, rfl⟩)

end

theorem DerivesAll.readMany {tokens : List Token} {vs : List Value} (derives : DerivesAll tokens vs)
    {depth : Nat} (deep : Value.depthAll vs ≤ depth) {bound : List Token}
    (long : vs.length ≤ bound.length) :
    Reader.readMany (Reader.readOne depth) bound tokens = .ok vs := by
  induction vs generalizing tokens bound with
  | nil =>
    cases derives
    simp [Reader.readMany]
  | cons v vs ih =>
    cases derives with
    | @cons first others _ _ one more =>
      obtain ⟨b, bound, rfl⟩ := List.exists_cons_of_length_pos (Nat.zero_lt_of_lt long)
      rw [Value.depthAll] at deep
      have read := one.readOne (Nat.le_trans (Nat.le_max_left ..) deep) others
      have later := ih more (Nat.le_trans (Nat.le_max_right ..) deep)
        (Nat.le_of_succ_le_succ long)
      obtain ⟨token, tail, start, -⟩ := one.starts others
      exact readMany_eq_ok.mpr (.inr ⟨by simp [start], v, others, vs, read, later, rfl⟩)

end Complete

section Sound

def Sound (depth : Nat) (f : List Token → Except Fault (Value × List Token)) : Prop :=
  ∀ tokens v rest, f tokens = .ok (v, rest) →
    ∃ used, tokens = used ++ rest ∧ Derives used v ∧ v.depth ≤ depth

variable {depth : Nat} {f : List Token → Except Fault (Value × List Token)}

theorem readItems_sound (sound : Sound depth f) {bound tokens rest : List Token} {vs : List Value}
    (read : readItems f bound tokens = .ok (vs, rest)) :
    ∃ used, tokens = used ++ .rparen :: rest ∧ DerivesAll used vs ∧ Value.depthAll vs ≤ depth := by
  induction bound generalizing tokens vs with
  | nil => simp [readItems] at read
  | cons b bound ih =>
    rcases readItems_eq_ok.mp read with ⟨rfl, rfl⟩ | ⟨-, v, middle, others, first, later, rfl⟩
    · exact ⟨[], rfl, .nil, Nat.zero_le _⟩
    · obtain ⟨used, rfl, one, deep⟩ := sound _ _ _ first
      obtain ⟨more, rfl, all, deeper⟩ := ih later
      refine ⟨used ++ more, by rw [List.append_assoc], .cons one all, ?_⟩
      rw [Value.depthAll]
      exact Nat.max_le.mpr ⟨deep, deeper⟩

theorem readMany_sound (sound : Sound depth f) {bound tokens : List Token} {vs : List Value}
    (read : readMany f bound tokens = .ok vs) :
    DerivesAll tokens vs ∧ Value.depthAll vs ≤ depth := by
  induction bound generalizing tokens vs with
  | nil =>
    cases tokens with
    | nil =>
      cases read
      exact ⟨.nil, Nat.zero_le _⟩
    | cons token rest => simp [readMany] at read
  | cons b bound ih =>
    rcases readMany_eq_ok.mp read with ⟨rfl, rfl⟩ | ⟨-, v, middle, others, first, later, rfl⟩
    · exact ⟨.nil, Nat.zero_le _⟩
    · obtain ⟨used, rfl, one, deep⟩ := sound _ _ _ first
      obtain ⟨all, deeper⟩ := ih later
      refine ⟨.cons one all, ?_⟩
      rw [Value.depthAll]
      exact Nat.max_le.mpr ⟨deep, deeper⟩

theorem readOne_sound (depth : Nat) : Sound depth (readOne depth) := by
  induction depth with
  | zero =>
    intro tokens v rest read
    cases tokens <;> cases read
  | succ depth ih =>
    intro tokens v rest read
    cases tokens with
    | nil => cases read
    | cons token others =>
      cases token with
      | lparen =>
        obtain ⟨items, inner, rfl⟩ := readOne_list_eq_ok.mp read
        obtain ⟨used, rfl, all, deep⟩ := readItems_sound ih inner
        refine ⟨.lparen :: (used ++ [.rparen]), by simp, .list all, ?_⟩
        rw [Value.depth]
        exact Nat.succ_le_succ deep
      | rparen => cases read
      | quote =>
        obtain ⟨-, quoted, inner, rfl⟩ := readQuoted_eq_ok.mp read
        obtain ⟨used, rfl, one, deep⟩ := ih _ _ _ inner
        refine ⟨.quote :: used, rfl, .quote one, ?_⟩
        have positive := quoted.depth_pos
        simp only [Value.depth, Value.depthAll]
        omega
      | word text =>
        cases read
        refine ⟨[.word text], rfl, .word text, ?_⟩
        rw [depth_readWord]
        exact Nat.succ_pos depth

end Sound

theorem readOne_eq_ok {depth : Nat} {tokens rest : List Token} {v : Value} :
    readOne depth tokens = .ok (v, rest) ↔
      ∃ used, tokens = used ++ rest ∧ Derives used v ∧ v.depth ≤ depth := by
  constructor
  · exact readOne_sound depth tokens v rest
  · rintro ⟨used, rfl, derives, deep⟩
    exact derives.readOne deep rest

theorem readAll_eq_ok {depth : Nat} {tokens : List Token} {exprs : List Value} :
    readAll depth tokens = .ok exprs ↔
      DerivesAll tokens exprs ∧ Value.depthAll exprs ≤ depth := by
  constructor
  · exact readMany_sound (readOne_sound depth)
  · rintro ⟨derives, deep⟩
    exact derives.readMany deep derives.length_le

theorem DerivesAll.unique {tokens : List Token} {exprs others : List Value}
    (one : DerivesAll tokens exprs) (two : DerivesAll tokens others) : exprs = others := by
  -- Both are what a reader that goes deep enough for both of them reads.
  let depth := max (Value.depthAll exprs) (Value.depthAll others)
  have first : readAll depth tokens = .ok exprs := readAll_eq_ok.mpr ⟨one, Nat.le_max_left ..⟩
  have second : readAll depth tokens = .ok others := readAll_eq_ok.mpr ⟨two, Nat.le_max_right ..⟩
  exact Except.ok.inj (first.symm.trans second)

section Loop

theorem bind_congr_ok {α β : Type} {m : Except Fault α} {next other : α → Except Fault β}
    (same : ∀ a, m = .ok a → next a = other a) : (m >>= next) = (m >>= other) := by
  cases m with
  | ok a => exact same a rfl
  | error fault => rfl

theorem readOne_shrinks {depth : Nat} {tokens rest : List Token} {v : Value}
    (read : readOne depth tokens = .ok (v, rest)) : rest.length < tokens.length := by
  obtain ⟨used, rfl, derives, -⟩ := readOne_eq_ok.mp read
  have some := derives.length_pos
  rw [List.length_append]
  omega

theorem readMany_bound {depth : Nat} {bound other tokens : List Token}
    (long : tokens.length ≤ bound.length) (enough : tokens.length ≤ other.length) :
    readMany (readOne depth) bound tokens = readMany (readOne depth) other tokens := by
  induction bound generalizing other tokens with
  | nil =>
    obtain rfl : tokens = [] := List.length_eq_zero_iff.mp (Nat.le_zero.mp long)
    simp [readMany]
  | cons b bound ih =>
    cases tokens with
    | nil => simp [readMany]
    | cons token rest =>
      obtain ⟨c, other, rfl⟩ := List.exists_cons_of_length_pos (Nat.zero_lt_of_lt enough)
      rw [readMany.eq_3 _ _ _ _ (by simp), readMany.eq_3 _ _ _ _ (by simp)]
      refine bind_congr_ok ?_
      rintro ⟨expr, left⟩ read
      -- What is left is shorter, so both bounds still suffice.
      have shorter := readOne_shrinks read
      simp only [List.length_cons] at long enough shorter
      have same : readMany (readOne depth) bound left = readMany (readOne depth) other left :=
        ih (by omega) (by omega)
      simp only [same]

theorem readAll_step (depth : Nat) {tokens : List Token} (some : tokens ≠ []) :
    readAll depth tokens = do
      let (expr, rest) ← readOne depth tokens
      let exprs ← readAll depth rest
      return expr :: exprs := by
  obtain ⟨token, others, rfl⟩ := List.exists_cons_of_ne_nil some
  rw [readAll, readMany.eq_3 _ _ _ _ (by simp)]
  refine bind_congr_ok ?_
  rintro ⟨expr, rest⟩ read
  have shorter := readOne_shrinks read
  have same : readMany (readOne depth) others rest = readAll depth rest :=
    readMany_bound (Nat.le_of_lt_succ shorter) (Nat.le_refl _)
  simp only [same]

end Loop

/-- The reader accepts a token list exactly when it is made of expressions one after the other, none
of them deeper than the depth given, and reads what they denote. No token list can be read in two
ways. Every pass of the loop over the expressions takes at least one token. -/
theorem readAll_iff_derives (depth : Nat) (tokens : List Token) :
    (∀ exprs, readAll depth tokens = .ok exprs ↔
      DerivesAll tokens exprs ∧ Value.depthAll exprs ≤ depth) ∧
    (∀ exprs others, DerivesAll tokens exprs → DerivesAll tokens others → exprs = others) ∧
    (tokens ≠ [] → readAll depth tokens = do
      let (expr, rest) ← readOne depth tokens
      let exprs ← readAll depth rest
      return expr :: exprs) ∧
    ∀ expr rest, readOne depth tokens = .ok (expr, rest) → rest.length < tokens.length := by
  refine ⟨fun _ => readAll_eq_ok, fun _ _ => DerivesAll.unique, readAll_step depth, ?_⟩
  exact fun _ _ => readOne_shrinks

end Reader

end PocketLisp
