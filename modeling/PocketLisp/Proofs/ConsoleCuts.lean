import PocketLisp.Proofs.ConsoleServer

set_option autoImplicit false

namespace PocketLisp.Console

section Commands

variable {line : String}

theorem ofLine_quit (quit : quits line = true) : Command.ofLine line = .quit := by
  simp only [quits, Bool.or_eq_true, beq_iff_eq] at quit
  simp [Command.ofLine, quit]

theorem stays_of_reset (reset : Text.strip line = ":reset") : quits line = false := by
  simp [quits, reset]

variable (depth : Nat) (prompt : String) (session : Session) (rest : List String)

theorem replFrom_quit (quit : quits line = true) :
    replFrom depth prompt session (line :: rest) = ("", session) := by
  simp [replFrom, ofLine_quit quit]

-- What is written after a reset, with the prompt that follows it, is a run of its own.
theorem replFrom_reset (reset : Text.strip line = ":reset") :
    replFrom depth prompt session (line :: rest) =
      ("session reset\n" ++ (repl depth prompt rest).1, (repl depth prompt rest).2) := by
  rw [replFrom_cons depth prompt session (stays_of_reset reset), ofLine_reset reset]
  simp [perform, repl, String.append_assoc]

end Commands

theorem replFrom_append (depth : Nat) (prompt : String) (session : Session) {before : List String}
    (stays : ∀ line ∈ before, quits line = false) (after : List String) :
    replFrom depth prompt session (before ++ after) =
      let (text, middle) := replFrom depth prompt session before
      let (more, final) := replFrom depth prompt middle after
      (text ++ more, final) := by
  induction before generalizing session with
  | nil => simp [replFrom]
  | cons line before ih =>
    obtain ⟨first, others⟩ := List.forall_mem_cons.mp stays
    rw [List.cons_append, replFrom_cons depth prompt session first,
      replFrom_cons depth prompt session first]
    simp [ih _ others, String.append_assoc]

theorem repl_append (depth : Nat) (prompt : String) {before : List String}
    (stays : ∀ line ∈ before, quits line = false) (after : List String) :
    repl depth prompt (before ++ after) =
      let (text, middle) := repl depth prompt before
      let (more, final) := replFrom depth prompt middle after
      (text ++ more, final) := by
  simp [repl, replFrom_append depth prompt .initial stays, String.append_assoc]

/-- As long as nothing quits before, a run with a reset writes what the lines before the reset write
alone, the notice of the reset, and what the lines behind it write alone, and it ends in the session
of these. A run in which a line quits is the run up to that line. -/
theorem repl_cut (depth : Nat) (prompt : String) (before : List String)
    (stays : ∀ line ∈ before, quits line = false) :
    (∀ line after, Text.strip line = ":reset" →
      repl depth prompt (before ++ [line] ++ after) =
        ((repl depth prompt before).1 ++ "session reset" ++ "\n" ++ (repl depth prompt after).1,
          (repl depth prompt after).2)) ∧
    ∀ line after, quits line = true →
      repl depth prompt (before ++ [line] ++ after) = repl depth prompt before := by
  constructor
  · intro line after reset
    rw [List.append_assoc, List.singleton_append, repl_append depth prompt stays]
    simp [replFrom_reset depth prompt _ after reset, String.append_assoc]
  · intro line after quit
    rw [List.append_assoc, List.singleton_append, repl_append depth prompt stays]
    simp [replFrom_quit depth prompt _ after quit]

theorem repl_cut_defined :
    let before := ["(defun f () 'x)", "", "(f"]
    let after := ["(f)", ":quit", "(g)"]
    (∀ line ∈ before, quits line = false) ∧
      Text.strip ":reset" = ":reset" ∧
      repl defaultDepth "> " (before ++ [":reset"] ++ after) =
        ((repl defaultDepth "> " before).1 ++ "session reset" ++ "\n" ++
            (repl defaultDepth "> " after).1,
          (repl defaultDepth "> " after).2) ∧
      quits " :q\n" = true ∧
      repl defaultDepth "> " (before ++ [" :q\n"] ++ after) = repl defaultDepth "> " before := by
  intro before after
  have stays : ∀ line ∈ before, quits line = false := by decide
  have reset : Text.strip ":reset" = ":reset" := by decide
  have quit : quits " :q\n" = true := by decide
  have cut := repl_cut defaultDepth "> " before stays
  exact ⟨stays, reset, cut.1 ":reset" after reset, quit, cut.2 " :q\n" after quit⟩

end PocketLisp.Console
