import PocketLisp.Proofs.Grammar

set_option autoImplicit false

namespace PocketLisp.Reader

def Agrees {α : Type} (excused : Fault → Prop) (a b : Except Fault α) : Prop :=
  a = b ∨ ∃ fault, excused fault ∧ a = .error fault

section Agreeing

theorem Agrees.eq {α : Type} {a b : Except Fault α} (agrees : Agrees (fun _ => False) a b) :
    a = b :=
  agrees.resolve_right fun ⟨_, never, _⟩ => never

variable {excused : Fault → Prop}

theorem Agrees.bind {α β : Type} {a b : Except Fault α} {next other : α → Except Fault β}
    (first : Agrees excused a b) (rest : ∀ x, Agrees excused (next x) (other x)) :
    Agrees excused (a >>= next) (b >>= other) := by
  rcases first with rfl | ⟨fault, admitted, rfl⟩
  · cases a with
    | ok x => exact rest x
    | error fault => exact .inl rfl
  · exact .inr ⟨fault, admitted, rfl⟩

-- The loops ask for an expression only where a token is left.
variable {f g : List Token → Except Fault (Value × List Token)}
  (agrees : ∀ tokens, tokens ≠ [] → Agrees excused (f tokens) (g tokens))

include agrees

theorem readItems_agrees (bound tokens : List Token) :
    Agrees excused (readItems f bound tokens) (readItems g bound tokens) := by
  induction bound generalizing tokens with
  | nil => exact .inl rfl
  | cons b bound ih =>
    rcases empty_or_closed_or_starts tokens with rfl | ⟨rest, rfl⟩ | ⟨token, rest, rfl, opened⟩
    · exact .inl rfl
    · exact .inl rfl
    · rw [readItems.eq_4 f _ _ _ (by simp) (by simp [opened]),
        readItems.eq_4 g _ _ _ (by simp) (by simp [opened])]
      refine .bind (agrees _ (by simp)) fun read => ?_
      exact .bind (ih read.2) fun _ => .inl rfl

theorem readQuoted_agrees (tokens : List Token) :
    Agrees excused (readQuoted f tokens) (readQuoted g tokens) := by
  rcases empty_or_closed_or_starts tokens with rfl | ⟨rest, rfl⟩ | ⟨token, rest, rfl, opened⟩
  · exact .inl rfl
  · exact .inl rfl
  · rw [readQuoted.eq_3 f _ (by simp) (by simp [opened]),
      readQuoted.eq_3 g _ (by simp) (by simp [opened])]
    exact .bind (agrees _ (by simp)) fun _ => .inl rfl

theorem readMany_agrees (bound tokens : List Token) :
    Agrees excused (readMany f bound tokens) (readMany g bound tokens) := by
  induction bound generalizing tokens with
  | nil => cases tokens <;> exact .inl rfl
  | cons b bound ih =>
    cases tokens with
    | nil => exact .inl rfl
    | cons token rest =>
      rw [readMany.eq_3 f _ _ _ (by simp), readMany.eq_3 g _ _ _ (by simp)]
      refine .bind (agrees _ (by simp)) fun read => ?_
      exact .bind (ih read.2) fun _ => .inl rfl

end Agreeing

theorem readOne_agrees {depth more : Nat} (less : depth ≤ more) :
    ∀ tokens, tokens ≠ [] → Agrees (· = .tooDeep) (readOne depth tokens) (readOne more tokens) := by
  induction depth generalizing more with
  | zero =>
    intro tokens some
    obtain ⟨token, rest, rfl⟩ := List.exists_cons_of_ne_nil some
    exact .inr ⟨.tooDeep, rfl, rfl⟩
  | succ depth ih =>
    intro tokens some
    obtain ⟨token, rest, rfl⟩ := List.exists_cons_of_ne_nil some
    obtain ⟨more, rfl⟩ := Nat.exists_eq_add_of_le' (Nat.le_of_add_left_le less)
    have inner := ih (Nat.le_of_succ_le_succ less)
    cases token with
    | lparen => exact .bind (readItems_agrees inner _ rest) fun _ => .inl rfl
    | rparen => exact .inl rfl
    | quote => exact readQuoted_agrees inner rest
    | word text => exact .inl rfl

theorem readAll_agrees {depth more : Nat} (less : depth ≤ more) (tokens : List Token) :
    Agrees (· = .tooDeep) (readAll depth tokens) (readAll more tokens) :=
  readMany_agrees (readOne_agrees less) tokens tokens

theorem DerivesAll.readAll_eq_ite {tokens : List Token} {exprs : List Value}
    (derives : DerivesAll tokens exprs) (depth : Nat) :
    readAll depth tokens =
      if Value.depthAll exprs ≤ depth then .ok exprs else .error .tooDeep := by
  split
  · next shallow => exact readAll_eq_ok.mpr ⟨derives, shallow⟩
  · next deep =>
    have whole : readAll (Value.depthAll exprs) tokens = .ok exprs :=
      readAll_eq_ok.mpr ⟨derives, Nat.le_refl _⟩
    rcases readAll_agrees (Nat.le_of_not_le deep) tokens with same | ⟨_, rfl, stopped⟩
    · rw [whole] at same
      exact absurd (readAll_eq_ok.mp same).2 deep
    · exact stopped

end PocketLisp.Reader
