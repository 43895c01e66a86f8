import PocketLisp.Session
import PocketLisp.Proofs.Grammar

set_option autoImplicit false

namespace PocketLisp

namespace Token

theorem scanFrom_append_blank {blank : Char} (plain : delimiter? blank = none)
    (light : Text.isBlank blank = true) (read text rest : List Char) :
    scanFrom read (text ++ blank :: rest) = scanFrom read text ++ scanFrom [] rest := by
  induction text generalizing read with
  | nil => simp [scanFrom, plain, light]
  | cons c text ih =>
    rw [List.cons_append, scanFrom, scanFrom]
    cases delimiter? c with
    | some token => simp [ih]
    | none =>
      -- A word in progress runs on through `c`, or ends at it.
      cases Text.isBlank c <;> simp [ih]

theorem scan_join (a b : String) : scan (a ++ " " ++ b) = scan a ++ scan b := by
  simp only [scan, String.toList_append, List.append_assoc]
  exact scanFrom_append_blank (by decide) (by decide) [] a.toList b.toList

end Token

namespace Reader

theorem DerivesAll.readAll_append {tokens : List Token} {exprs : List Value}
    (derives : DerivesAll tokens exprs) {depth : Nat} (deep : Value.depthAll exprs ≤ depth)
    (others : List Token) :
    readAll depth (tokens ++ others) = do
      let more ← readAll depth others
      return exprs ++ more := by
  induction exprs generalizing tokens with
  | nil =>
    cases derives
    cases read : readAll depth others with
    | ok more => simp [read]
    | error fault => simp [read]
  | cons v vs ih =>
    cases derives with
    | @cons used rest _ _ one more =>
      rw [Value.depthAll] at deep
      have first := one.readOne (Nat.le_trans (Nat.le_max_left ..) deep) (rest ++ others)
      have later := ih more (Nat.le_trans (Nat.le_max_right ..) deep)
      obtain ⟨token, tail, start, -⟩ := one.starts (rest ++ others)
      rw [List.append_assoc, readAll_step depth (by simp [start]), first]
      change (readAll depth (rest ++ others) >>= fun exprs => pure (v :: exprs)) = _
      rw [later]
      cases readAll depth others <;> rfl

theorem read_join {depth : Nat} {a b : String} {exprs : List Value}
    (first : read depth a = .ok exprs) :
    read depth (a ++ " " ++ b) = do
      let more ← read depth b
      return exprs ++ more := by
  obtain ⟨derives, deep⟩ := readAll_eq_ok.mp first
  rw [read, Token.scan_join]
  exact derives.readAll_append deep (Token.scan b)

theorem read_join_ok {depth : Nat} {a b : String} {first second : List Value}
    (one : read depth a = .ok first) (two : read depth b = .ok second) :
    read depth (a ++ " " ++ b) = .ok (first ++ second) := by
  rw [read_join one, two]
  rfl

theorem read_join_error {depth : Nat} {a b : String} {exprs : List Value} {fault : Fault}
    (one : read depth a = .ok exprs) (two : read depth b = .error fault) :
    read depth (a ++ " " ++ b) = .error fault := by
  rw [read_join one, two]
  rfl

end Reader

namespace Session

def after (session : Session) (lines : List String) : Session :=
  { session with printed := lines ++ session.printed }

variable (depth : Nat)

theorem runExpr_after (session : Session) (lines : List String) (expr : Value) :
    (session.after lines).runExpr depth expr =
      ((session.runExpr depth expr).1, (session.runExpr depth expr).2.after lines) := by
  simp only [runExpr, after]
  rcases (eval depth 0 expr).run (.ofGlobals session.globals 0) with ⟨outcome, store⟩
  simp

theorem runProgram_after (session : Session) (lines : List String) (last : Value)
    (program : List Value) :
    (session.after lines).runProgram depth last program =
      ((session.runProgram depth last program).1,
        (session.runProgram depth last program).2.after lines) := by
  induction program generalizing session last with
  | nil => rfl
  | cons expr rest ih =>
    rw [runProgram, runProgram, runExpr_after]
    rcases session.runExpr depth expr with ⟨fault | v, next⟩
    · rfl
    · exact ih next v

theorem runProgram_append (session : Session) (last : Value) (program more : List Value) :
    session.runProgram depth last (program ++ more) =
      match session.runProgram depth last program with
      | (.ok v, session) => session.runProgram depth v more
      | (.error fault, session) => (.error fault, session) := by
  induction program generalizing session last with
  | nil => rfl
  | cons expr rest ih =>
    rw [List.cons_append, runProgram, runProgram]
    rcases session.runExpr depth expr with ⟨fault | v, next⟩
    · rfl
    · exact ih next v

-- The value that a program starts with is the value of the empty program only.
theorem runProgram_last (session : Session) (last : Value) (program : List Value) :
    (session.runProgram depth last program).1 =
        (if program.isEmpty then .ok last else (session.runProgram depth .nil program).1) ∧
      (session.runProgram depth last program).2 = (session.runProgram depth .nil program).2 := by
  cases program with
  | nil => exact ⟨rfl, rfl⟩
  | cons expr rest => exact ⟨rfl, rfl⟩

variable {depth}

theorem evalValue_of_read {code : String} {program : List Value}
    (read : Reader.read depth code = .ok program) (session : Session) :
    session.evalValue depth code = runProgram depth ⟨session.globals, []⟩ .nil program := by
  rw [evalValue, read]

theorem evalValue_of_unreadable {code : String} {fault : Fault}
    (unreadable : Reader.read depth code = .error fault) (session : Session) :
    session.evalValue depth code = (.error fault, ⟨session.globals, []⟩) := by
  rw [evalValue, unreadable]

theorem evaluate_of_read {code : String} {expr : Value}
    (read : Reader.read depth code = .ok [expr]) (session : Session) :
    (session.evaluate depth code).1 =
      let ran := (eval depth 0 expr).run (.ofGlobals session.globals 0)
      ran.1 >>= (answer? depth · ran.2.printed.toList) := by
  change (session.evalValue depth code).1 >>=
    (answer? depth · (session.evalValue depth code).2.printed) = _
  rw [evalValue_of_read read, runProgram, runExpr]
  rcases (eval depth 0 expr).run (.ofGlobals session.globals 0) with ⟨fault | v, store⟩
  · rfl
  · rfl

theorem evalValue_join_of_error {session : Session} {a b : String} {first second : List Value}
    (one : Reader.read depth a = .ok first)
    (two : Reader.read depth b = .ok second) {fault : Fault}
    (fails : (session.evalValue depth a).1 = .error fault) :
    session.evalValue depth (a ++ " " ++ b) = session.evalValue depth a := by
  rw [evalValue_of_read one] at fails ⊢
  rw [evalValue_of_read (Reader.read_join_ok one two), runProgram_append]
  rcases ran : runProgram depth ⟨session.globals, []⟩ .nil first with ⟨outcome, next⟩
  obtain rfl : outcome = .error fault := by rwa [ran] at fails
  rfl

theorem evalValue_join_of_ok {session : Session} {a b : String} {first second : List Value}
    (one : Reader.read depth a = .ok first)
    (two : Reader.read depth b = .ok second) {v : Value}
    (succeeds : (session.evalValue depth a).1 = .ok v) :
    session.evalValue depth (a ++ " " ++ b) =
      (if second.isEmpty then .ok v else ((session.evalValue depth a).2.evalValue depth b).1,
        ((session.evalValue depth a).2.evalValue depth b).2.after
          (session.evalValue depth a).2.printed) := by
  rw [evalValue_of_read one] at succeeds
  rw [evalValue_of_read (Reader.read_join_ok one two), evalValue_of_read one, evalValue_of_read two,
    runProgram_append]
  rcases ran : runProgram depth ⟨session.globals, []⟩ .nil first with ⟨outcome, next⟩
  obtain rfl : outcome = .ok v := by rwa [ran] at succeeds
  -- The second program starts from no output when it is run alone, and from `next.printed` here.
  have same : after ⟨next.globals, []⟩ next.printed = next := by simp [after]
  have resumed := runProgram_after depth ⟨next.globals, []⟩ next.printed v second
  obtain ⟨outcome, left⟩ := runProgram_last depth ⟨next.globals, []⟩ v second
  rw [same, outcome, left] at resumed
  exact resumed

/-- Two readable programs in one text do what they do one after the other, up to the first error,
and print the lines of both. Output of earlier programs never shows. A text that cannot be read
fails as its reading does and changes nothing, however much of it could be read. -/
theorem evalValue_join (depth : Nat) (session : Session) (a b : String) :
    let alone := session.evalValue depth a
    let next := alone.2.evalValue depth b
    let joined := session.evalValue depth (a ++ " " ++ b)
    (∀ first second, Reader.read depth a = .ok first →
      Reader.read depth b = .ok second →
        (∀ fault, alone.1 = .error fault → joined = alone) ∧
        ∀ v, alone.1 = .ok v →
          joined.1 = (if second.isEmpty then .ok v else next.1) ∧
          joined.2.globals = next.2.globals ∧
          joined.2.printed = alone.2.printed ++ next.2.printed) ∧
    (∀ lines, evalValue depth { session with printed := lines } (a ++ " " ++ b) = joined) ∧
    (∀ code fault, Reader.read depth code = .error fault →
      session.evalValue depth code = (.error fault, ⟨session.globals, []⟩)) ∧
    ∀ first fault, Reader.read depth a = .ok first →
      Reader.read depth b = .error fault →
        joined = (.error fault, ⟨session.globals, []⟩) := by
  intro alone next joined
  refine ⟨?_, fun _ => rfl, fun _ _ unreadable => evalValue_of_unreadable unreadable session, ?_⟩
  · intro first second one two
    refine ⟨fun fault fails => evalValue_join_of_error one two fails, fun v succeeds => ?_⟩
    have both : joined = _ := evalValue_join_of_ok one two succeeds
    rw [both]
    exact ⟨rfl, rfl, rfl⟩
  · intro first fault one unreadable
    exact evalValue_of_unreadable (Reader.read_join_error one unreadable) session

theorem evalValue_join_printing :
    let session := (Session.initial.evalValue 100 "(print 'earlier)").2
    let a := "(defun f (x) (print x)) (f 1)"
    let alone := session.evalValue 100 a
    let joined := session.evalValue 100 (a ++ " " ++ "(f 2) 'done")
    let next := alone.2.evalValue 100 "(f 2) 'done"
    (∃ first second, Reader.read 100 a = .ok first ∧
      Reader.read 100 "(f 2) 'done" = .ok second ∧
        (∀ fault, alone.1 = .error fault → joined = alone) ∧
        ∀ v, alone.1 = .ok v →
          joined.1 = (if second.isEmpty then .ok v else next.1) ∧
          joined.2.globals = next.2.globals ∧
          joined.2.printed = alone.2.printed ++ next.2.printed) ∧
    Reader.read 100 "(f" = .error (.error .unmatchedParenthesis) ∧
      session.evalValue 100 (a ++ " " ++ "(f") =
        (.error (.error .unmatchedParenthesis), ⟨session.globals, []⟩) := by
  intro session a
  have one : Reader.read 100 "(defun f (x) (print x)) (f 1)" =
      .ok [.list [.symbol ⟨"defun"⟩, .symbol ⟨"f"⟩, .list [.symbol ⟨"x"⟩],
        .list [.symbol ⟨"print"⟩, .symbol ⟨"x"⟩]],
        .list [.symbol ⟨"f"⟩, Reader.readWord "1"]] := by rfl
  have two : Reader.read 100 "(f 2) 'done" =
      .ok [.list [.symbol ⟨"f"⟩, Reader.readWord "2"],
        .list [.symbol ⟨"quote"⟩, .symbol ⟨"done"⟩]] := by rfl
  have broken : Reader.read 100 "(f" = .error (.error .unmatchedParenthesis) := by rfl
  exact ⟨⟨_, _, one, two, (evalValue_join 100 session a _).1 _ _ one two⟩, broken,
    (evalValue_join 100 session a "(f").2.2.2 _ _ one broken⟩

end Session

end PocketLisp
