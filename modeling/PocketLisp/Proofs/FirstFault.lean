import PocketLisp.Proofs.Grammar
import PocketLisp.Proofs.Run

set_option autoImplicit false

namespace PocketLisp.Reader

def nothingQuoted : List Token → Bool
  | [] => true
  | token :: _ => token == .rparen

/-- The first fault from the left, where `depth` parentheses are open. -/
def firstFault : (depth : Nat) → List Token → Option LispError
  | 0, [] => none
  | _ + 1, [] => some .unmatchedParenthesis
  | depth, .lparen :: rest => firstFault (depth + 1) rest
  | 0, .rparen :: _ => some .unexpectedParenthesis
  | depth + 1, .rparen :: rest => firstFault depth rest
  | depth, .quote :: rest =>
    if nothingQuoted rest then some .danglingQuote else firstFault depth rest
  | depth, .word _ :: rest => firstFault depth rest

-- What is still open once an expression is complete: the quote marks right before it are not.
def settled (opened : List Token) : List Token :=
  opened.dropWhile (· == .quote)

-- How deep expressions nest before the first fault. The marks that opened those still in
-- progress are kept, the last one first.
def nestingFrom (opened : List Token) : List Token → Nat
  | [] => 0
  | .lparen :: rest => max (opened.length + 1) (nestingFrom (.lparen :: opened) rest)
  | .rparen :: rest =>
    match opened with
    | [] => 1
    | _ :: opened => nestingFrom (settled opened) rest
  | .quote :: rest =>
    if nothingQuoted rest then opened.length + 1
    else max (opened.length + 1) (nestingFrom (.quote :: opened) rest)
  | .word _ :: rest => max (opened.length + 1) (nestingFrom (settled opened) rest)

def nesting (tokens : List Token) : Nat :=
  nestingFrom [] tokens

theorem nothingQuoted_of_starts {tokens : List Token} (starts : Starts tokens) :
    nothingQuoted tokens = false := by
  obtain ⟨token, rest, rfl, opened⟩ := starts
  simpa [nothingQuoted] using opened

theorem count_settled (opened : List Token) :
    (settled opened).count .lparen = opened.count .lparen := by
  induction opened with
  | nil => rfl
  | cons token opened ih =>
    by_cases quote : token = .quote
    · simpa [settled, quote] using ih
    · simp [settled, quote]

def outlook (limit : Nat) (opened tokens : List Token) : Option Fault :=
  if nestingFrom opened tokens ≤ limit then
    (firstFault (opened.count .lparen) tokens).map .error
  else some .tooDeep

section Steps

variable {limit : Nat} {opened rest : List Token}

theorem level_le_iff {level inner : Nat} (within : level < limit) :
    max (level + 1) inner ≤ limit ↔ inner ≤ limit := by
  omega

theorem outlook_beyond {token : Token} (starts : token ≠ .rparen) (deep : limit ≤ opened.length) :
    outlook limit opened (token :: rest) = some .tooDeep := by
  have beyond : ¬ nestingFrom opened (token :: rest) ≤ limit := by
    cases token with
    | rparen => exact absurd rfl starts
    | lparen | word =>
      rw [nestingFrom]
      omega
    | quote =>
      rw [nestingFrom]
      split <;> omega
  exact if_neg beyond

theorem outlook_within {tokens : List Token} (within : nesting tokens ≤ limit) :
    outlook limit [] tokens = (firstFault 0 tokens).map .error :=
  if_pos within

theorem outlook_deep {tokens : List Token} (beyond : limit < nesting tokens) :
    outlook limit [] tokens = some .tooDeep :=
  if_neg (Nat.not_le.mpr beyond)

theorem outlook_lparen (within : opened.length < limit) :
    outlook limit opened (.lparen :: rest) = outlook limit (.lparen :: opened) rest := by
  simp only [outlook, nestingFrom, firstFault, level_le_iff within, List.count_cons_self]

theorem outlook_unclosed :
    outlook limit (.lparen :: opened) [] = some (.error .unmatchedParenthesis) := by
  simp [outlook, nestingFrom, firstFault]

theorem outlook_rparen :
    outlook limit (.lparen :: opened) (.rparen :: rest) = outlook limit (settled opened) rest := by
  simp only [outlook, nestingFrom, firstFault, List.count_cons_self, count_settled]

theorem outlook_dangling (within : opened.length < limit) (nothing : nothingQuoted rest = true) :
    outlook limit opened (.quote :: rest) = some (.error .danglingQuote) := by
  have level : opened.length + 1 ≤ limit := within
  simp [outlook, nestingFrom, firstFault, nothing, level]

theorem outlook_quote (within : opened.length < limit) (starts : Starts rest) :
    outlook limit opened (.quote :: rest) = outlook limit (.quote :: opened) rest := by
  have other : List.count Token.lparen (.quote :: opened) = opened.count .lparen :=
    List.count_cons_of_ne (by decide)
  simp only [outlook, nestingFrom, firstFault, nothingQuoted_of_starts starts, Bool.false_eq_true,
    if_false, level_le_iff within, other]

theorem outlook_word (within : opened.length < limit) (text : String) :
    outlook limit opened (.word text :: rest) = outlook limit (settled opened) rest := by
  simp only [outlook, nestingFrom, firstFault, level_le_iff within, count_settled]

end Steps

section Reading

variable {α β : Type} {limit : Nat} {opened : List Token}

def Follows (limit : Nat) (opened : List Token) (target : Option Fault) :
    Except Fault (α × List Token) → Prop :=
  Ends (fun read => outlook limit opened read.2 = target) (fun fault => some fault = target)

theorem Follows.bind {opened after : List Token} {target : Option Fault}
    {answer : Except Fault (α × List Token)} {next : α × List Token → Except Fault (β × List Token)}
    (first : Follows limit opened target answer)
    (rest : ∀ a tokens, answer = .ok (a, tokens) →
      Follows limit after (outlook limit opened tokens) (next (a, tokens))) :
    Follows limit after target (answer >>= next) := by
  cases answer with
  | ok read =>
    have later := rest read.1 read.2 rfl
    rwa [show outlook limit opened read.2 = target from first] at later
  | error fault => exact first

theorem Follows.pure {target : Option Fault} {a : α} {tokens : List Token}
    (same : outlook limit opened tokens = target) :
    Follows limit opened target (.ok (a, tokens)) :=
  same

variable {f : List Token → Except Fault (Value × List Token)}

theorem readItems_follows
    (shrinks : ∀ tokens v rest, f tokens = .ok (v, rest) → rest.length < tokens.length)
    (follows : ∀ tokens, Starts tokens →
      Follows limit (.lparen :: opened) (outlook limit (.lparen :: opened) tokens) (f tokens))
    {bound tokens : List Token} (long : tokens.length < bound.length) :
    Follows limit (settled opened) (outlook limit (.lparen :: opened) tokens)
      (readItems f bound tokens) := by
  induction bound generalizing tokens with
  | nil => exact absurd long (Nat.not_lt_zero _)
  | cons b bound ih =>
    rcases empty_or_closed_or_starts tokens with rfl | ⟨rest, rfl⟩ | starts
    · exact outlook_unclosed.symm
    · exact outlook_rparen.symm
    · obtain ⟨token, rest, rfl, opening⟩ := id starts
      rw [readItems.eq_4 f _ _ _ (by simp) (by simp [opening])]
      refine (follows _ starts).bind fun item left read => ?_
      -- Every item takes a token, so the bound is still long enough for what is left.
      have shorter := shrinks _ _ _ read
      have enough : left.length < bound.length := by
        simp only [List.length_cons] at long shorter
        omega
      refine (ih enough).bind fun items rest _ => ?_
      exact .pure rfl

theorem readQuoted_follows (within : opened.length < limit)
    (follows : ∀ tokens, Starts tokens →
      Follows limit (settled opened) (outlook limit (.quote :: opened) tokens) (f tokens))
    (tokens : List Token) :
    Follows limit (settled opened) (outlook limit opened (.quote :: tokens))
      (readQuoted f tokens) := by
  rcases empty_or_closed_or_starts tokens with rfl | ⟨rest, rfl⟩ | starts
  · exact (outlook_dangling within rfl).symm
  · exact (outlook_dangling within rfl).symm
  · obtain ⟨token, rest, rfl, opening⟩ := id starts
    rw [readQuoted.eq_3 f _ (by simp) (by simp [opening]), outlook_quote within starts]
    refine (follows _ starts).bind fun quoted left _ => ?_
    exact .pure rfl

theorem readOne_follows (depth : Nat) (opened : List Token) {tokens : List Token}
    (starts : Starts tokens) :
    Follows (opened.length + depth) (settled opened)
      (outlook (opened.length + depth) opened tokens) (readOne depth tokens) := by
  induction depth generalizing opened tokens with
  | zero =>
    obtain ⟨token, rest, rfl, opening⟩ := starts
    exact (outlook_beyond opening (Nat.le_refl _)).symm
  | succ depth ih =>
    obtain ⟨token, rest, rfl, opening⟩ := starts
    have within : opened.length < opened.length + (depth + 1) := by omega
    have level : opened.length + 1 + depth = opened.length + (depth + 1) := by omega
    cases token with
    | rparen => exact absurd rfl opening
    | word text => exact (outlook_word within text).symm
    | quote =>
      refine readQuoted_follows within (fun tokens starts => ?_) rest
      have inner := ih (.quote :: opened) starts
      rwa [List.length_cons, level] at inner
    | lparen =>
      rw [outlook_lparen within]
      have items : Follows (opened.length + (depth + 1)) (settled opened)
          (outlook (opened.length + (depth + 1)) (.lparen :: opened) rest)
          (readItems (readOne depth) (.lparen :: rest) rest) := by
        refine readItems_follows (fun _ _ _ => readOne_shrinks) (fun tokens starts => ?_) (by simp)
        have inner := ih (.lparen :: opened) starts
        rwa [List.length_cons, level] at inner
      refine items.bind fun _ left _ => ?_
      exact .pure rfl

end Reading

theorem readOne_follows_top (depth : Nat) {tokens : List Token} (some : tokens ≠ []) :
    Follows depth [] (outlook depth [] tokens) (readOne depth tokens) := by
  rcases empty_or_closed_or_starts tokens with rfl | ⟨rest, rfl⟩ | starts
  · exact absurd rfl some
  · cases depth <;> exact rfl
  · have follows := readOne_follows depth [] starts
    rwa [List.length_nil, Nat.zero_add] at follows

theorem readAll_ends (depth : Nat) (tokens : List Token) :
    Ends (fun _ => outlook depth [] tokens = none)
      (fun fault => outlook depth [] tokens = some fault) (readAll depth tokens) := by
  -- What is left after an expression is shorter.
  induction size : tokens.length using Nat.strongRecOn generalizing tokens with
  | _ size ih =>
    cases tokens with
    | nil => exact if_pos (Nat.zero_le depth)
    | cons token rest =>
      have first := readOne_follows_top depth (List.cons_ne_nil token rest)
      rw [readAll_step depth (List.cons_ne_nil token rest)]
      cases read : readOne depth (token :: rest) with
      | error fault =>
        rw [read] at first
        exact first.symm
      | ok answer =>
        obtain ⟨expr, left⟩ := answer
        rw [read] at first
        have same : outlook depth [] left = outlook depth [] (token :: rest) := first
        have later := ih left.length (size ▸ readOne_shrinks read) left rfl
        rw [same] at later
        exact later.bind fun _ done => done

theorem readAll_eq_error_iff {depth : Nat} {tokens : List Token} {fault : Fault} :
    readAll depth tokens = .error fault ↔ outlook depth [] tokens = some fault := by
  have ends := readAll_ends depth tokens
  cases read : readAll depth tokens with
  | ok exprs =>
    rw [read] at ends
    have clear : outlook depth [] tokens = none := ends
    simp [clear]
  | error found =>
    rw [read] at ends
    have ahead : outlook depth [] tokens = some found := ends
    simp [ahead]

theorem firstFault_kind {depth : Nat} {tokens : List Token} {e : LispError}
    (found : firstFault depth tokens = some e) : e.kind ≠ .unreadable := by
  fun_induction firstFault depth tokens with
  | case1 => cases found
  | case2 | case4 | case6 =>
    obtain rfl := Option.some.inj found
    decide
  | case3 _ _ ih | case5 _ _ ih | case7 _ _ _ ih | case8 _ _ _ ih => exact ih found

/-- As long as expressions nest no deeper than the depth given, the reader succeeds or fails as the
pass with a counter of open parentheses says, at the first fault from the left; where they nest
deeper before that fault, the depth is all that it fails at. It never fails for want of a token in
the middle of an expression. -/
theorem readAll_firstFault (depth : Nat) (tokens : List Token) :
    (nesting tokens ≤ depth →
      (firstFault 0 tokens = none → ∃ exprs, readAll depth tokens = .ok exprs) ∧
      ∀ e, firstFault 0 tokens = some e → readAll depth tokens = .error (.error e)) ∧
    (depth < nesting tokens → readAll depth tokens = .error .tooDeep) ∧
    ∀ e, readAll depth tokens = .error (.error e) → e.kind ≠ .unreadable := by
  refine ⟨fun within => ⟨fun clear => ?_, fun e found => ?_⟩, fun beyond => ?_, fun e failed => ?_⟩
  · cases read : readAll depth tokens with
    | ok exprs => exact ⟨exprs, rfl⟩
    | error fault =>
      have ahead := readAll_eq_error_iff.mp read
      rw [outlook_within within, clear] at ahead
      cases ahead
  · refine readAll_eq_error_iff.mpr ?_
    rw [outlook_within within, found]
    rfl
  · exact readAll_eq_error_iff.mpr (outlook_deep beyond)
  · have ahead := readAll_eq_error_iff.mp failed
    rcases Nat.lt_or_ge depth (nesting tokens) with beyond | within
    · rw [outlook_deep beyond] at ahead
      cases ahead
    · rw [outlook_within within] at ahead
      obtain ⟨found, first, same⟩ := Option.map_eq_some_iff.mp ahead
      cases same
      exact firstFault_kind first

-- Inside an open list, a quote mark before a closing parenthesis is the first fault of `a ( ' )
-- (` and the parenthesis that is never closed is not looked at.
theorem readAll_firstFault_quote :
    let tokens := [.word "a", .lparen, .quote, .rparen, .lparen]
    nesting tokens = 2 ∧ firstFault 0 tokens = some .danglingQuote ∧
      readAll 2 tokens = .error (.error .danglingQuote) ∧
      readAll 1 tokens = .error .tooDeep ∧ LispError.danglingQuote.kind ≠ .unreadable := by
  intro tokens
  have deep : nesting tokens = 2 := rfl
  have found : firstFault 0 tokens = some .danglingQuote := rfl
  obtain ⟨within, -, kinds⟩ := readAll_firstFault 2 tokens
  have failed : readAll 2 tokens = .error (.error .danglingQuote) :=
    (within (Nat.le_of_eq deep)).2 _ found
  obtain ⟨-, beyond, -⟩ := readAll_firstFault 1 tokens
  exact ⟨deep, found, failed, beyond (by rw [deep]; decide), kinds _ failed⟩

end PocketLisp.Reader
