import PocketLisp.Proofs.DefinitionOrder
import PocketLisp.Proofs.PrintCalls
import PocketLisp.Proofs.ReadingLimit

set_option autoImplicit false

namespace PocketLisp

def Symbol.Worded (s : Symbol) : Prop :=
  Token.Word s.name.toList

section Worded

theorem Reader.admits_worded (code : String) : Admits Symbol.Worded (Token.scan code) := by
  intro text member _
  exact Text.word_lower.mpr (Token.word_of_mem_scanFrom (by simp) code.toList member)

theorem Symbol.quote_worded : Symbol.Worded ⟨"quote"⟩ :=
  .of_all (by decide) (by decide)

theorem Session.Reachable.worded {session : Session} (reached : session.Reachable) :
    session.Sound Symbol.Worded := by
  induction reached with
  | initial => exact .initial
  | evalValue _ depth code ih | evaluate _ depth code ih =>
    exact (ih.evalValue Symbol.quote_worded depth code (Reader.admits_worded code)).1

end Worded

namespace Value

section Printed

theorem Data.scans_worded {v : Value} (data : v.Data Symbol.Worded) : v.Scans := by
  induction data with
  | nil => exact atomic_nil.scans
  | bool b => exact (atomic_bool b).scans
  | number x => exact (atomic_number x).scans
  | @symbol s worded =>
    refine scans_leaf rfl ?_
    rw [Value.print]
    exact Symbol.print_word worded
  | list _ ih => exact scans_list ih

theorem derives_leaf {v : Value} (leaf : v.isList = false) :
    ∃ w, Reader.Derives v.tokens w ∧ w.depth = v.depth := by
  rw [tokens_leaf leaf, depth_leaf leaf]
  exact ⟨Reader.readWord v.print, .word v.print, Reader.depth_readWord v.print⟩

mutual

-- The tokens of any printed value are one expression, which nests as deep as the value.
theorem derives : ∀ v : Value, ∃ w, Reader.Derives v.tokens w ∧ w.depth = v.depth
  | .list items => by
    obtain ⟨ws, inner, -, deep⟩ := derivesAll items
    rw [tokens]
    exact ⟨.list ws, .list inner, by rw [depth, depth, deep]⟩
  | .nil | .bool _ | .number _ | .symbol _ | .text _ | .primitive _ | .function .. =>
    derives_leaf rfl

theorem derivesAll : ∀ items : List Value, ∃ ws, Reader.DerivesAll (tokensAll items) ws ∧
    ws.length = items.length ∧ depthAll ws = depthAll items
  | [] => ⟨[], by rw [tokensAll]; exact .nil, rfl, rfl⟩
  | v :: rest => by
    obtain ⟨w, one, deep⟩ := derives v
    obtain ⟨ws, more, many, deeper⟩ := derivesAll rest
    rw [tokensAll]
    exact ⟨w :: ws, .cons one more, by simp [many], by rw [depthAll, depthAll, deep, deeper]⟩

end

end Printed

section Lines

variable {args : List Value}

theorem scan_line (each : ∀ v ∈ args, v.Data Symbol.Worded) :
    Token.scan (" ".intercalate (printAll args)) = tokensAll args := by
  have whole := scans_items (fun v member => (each v member).scans_worded)
    (show Token.Breaks [] by simp [Token.Breaks])
  simpa [Token.scan, Token.scanFrom, Token.pending] using whole

-- What fits in the depth that is left when it is printed can be read within as much.
theorem line_reads (each : ∀ v ∈ args, v.Data Symbol.Worded) {depth : Nat}
    (fits : depthAll args ≤ depth) :
    ∃ exprs, Reader.read depth (" ".intercalate (printAll args)) = .ok exprs ∧
      exprs.length = args.length := by
  obtain ⟨exprs, derives, many, deep⟩ := derivesAll args
  refine ⟨exprs, ?_, many⟩
  rw [Reader.read, scan_line each]
  exact Reader.readAll_eq_ok.mpr ⟨derives, deep ▸ fits⟩

theorem print_reads {v : Value} (data : v.Data Symbol.Worded) {depth : Nat}
    (fits : v.depth ≤ depth) : ∃ expr, Reader.read depth v.print = .ok [expr] := by
  have one : ∀ w ∈ [v], w.Data Symbol.Worded := by simpa using data
  obtain ⟨exprs, reads, single⟩ := line_reads one (show depthAll [v] ≤ depth by simpa [depthAll])
  obtain ⟨expr, rfl⟩ := List.length_eq_one_iff.mp single
  exact ⟨expr, by simpa [printAll] using reads⟩

theorem line_unbroken (each : ∀ v ∈ args, '\n' ∉ v.print.toList) :
    '\n' ∉ (" ".intercalate (printAll args)).toList := by
  induction args with
  | nil => simp [printAll]
  | cons v rest ih =>
    have first := each v List.mem_cons_self
    have later := ih fun w member => each w (List.mem_cons_of_mem v member)
    cases rest with
    | nil => simpa [printAll] using first
    | cons w rest =>
      rw [printAll, String.intercalate_cons_of_ne_nil (by simp [printAll])]
      simpa [first] using later

theorem Data.unbroken {v : Value} (data : v.Data Symbol.Worded) : '\n' ∉ v.print.toList := by
  have solid : ∀ {text : List Char}, Token.Word text → '\n' ∉ text := fun word member =>
    absurd (word.solid _ member) (by decide)
  induction data with
  | nil => exact solid atomic_nil.word
  | bool b => exact solid (atomic_bool b).word
  | number x => exact solid (atomic_number x).word
  | symbol worded =>
    rw [Value.print]
    exact solid (Symbol.print_word worded)
  | list _ ih => simpa [Value.print] using line_unbroken ih

end Lines

end Value

theorem lines_before (lines : List String) (last : String) :
    String.join (lines.map (· ++ "\n")) ++ last = "\n".intercalate (lines ++ [last]) := by
  induction lines with
  | nil => simp
  | cons line rest ih =>
    rw [List.map_cons, String.join_cons, List.cons_append,
      String.intercalate_cons_of_ne_nil (by simp), ← ih]
    simp [String.append_assoc]

theorem split_lines {lines : List String} (some : lines ≠ [])
    (unbroken : ∀ line ∈ lines, '\n' ∉ line.toList) :
    (("\n".intercalate lines).split '\n').toList.map (·.copy) = lines := by
  have split := String.toList_split_intercalate unbroken
  rwa [if_neg some] at split

namespace Session

variable {depth : Nat} {session : Session} {code : String} {answer : Answer}

/-- The output is the lines printed and then the result, and these can be told apart and read. -/
structure LineFramed (depth : Nat) (session : Session) (code : String) (answer : Answer) :
    Prop where
  unbroken : '\n' ∉ answer.result.toList ∧
    ∀ line ∈ (session.evaluate depth code).2.printed, '\n' ∉ line.toList
  lines : (answer.output.split '\n').toList.map (·.copy) =
    (session.evaluate depth code).2.printed ++ [answer.result]
  result : ∃ v expr, (session.evalValue depth code).1 = .ok v ∧ answer.result = v.print ∧
    Reader.read depth answer.result = .ok [expr]
  -- Every line comes from a call of `print`, and is one expression for each of its arguments.
  printed : ∀ line ∈ (session.evaluate depth code).2.printed, ∃ budget args store exprs,
    session.Performs depth code (.apply budget (.primitive .print) args store) ∧
      line = " ".intercalate (Value.printAll args) ∧
      Reader.read depth line = .ok exprs ∧ exprs.length = args.length
  -- Every call of `print` has its line, after those that were there before it.
  calls : ∀ budget args store,
    session.Performs depth code (.apply budget (.primitive .print) args store) →
      store.printed.toList ++ [" ".intercalate (Value.printAll args)] <:+:
        (session.evaluate depth code).2.printed

theorem evaluate_eq_ok (succeeded : (session.evaluate depth code).1 = .ok answer) :
    ∃ v, (session.evalValue depth code).1 = .ok v ∧ v.depth ≤ depth ∧
      answer = Session.answer v (session.evaluate depth code).2.printed := by
  obtain ⟨v, ended, answered⟩ := Reader.bind_eq_ok.mp succeeded
  unfold answer? at answered
  split at answered
  · next fits => exact ⟨v, ended, fits, (Except.ok.inj answered).symm⟩
  · cases answered

section Calls

variable {budget : Nat} {args : List Value} {store : Store}
  (performed : session.Performs depth code (.apply budget (.primitive .print) args store))
  {v : Value} (succeeded : (session.evalValue depth code).1 = .ok v)

include performed succeeded

theorem Performs.print_fits : Primitive.reach .print args ≤ budget := by
  obtain ⟨w, ran⟩ := performed.succeeds succeeded
  by_contra large
  rw [Job.run, Eval.run_apply_primitive, if_neg large] at ran
  cases ran

theorem Performs.print_shows : store.printed.toList ++ [" ".intercalate (Value.printAll args)] <:+:
    (session.evaluate depth code).2.printed := by
  have shown : (Job.apply budget (.primitive .print) args store).run.2.printed.toList =
      store.printed.toList ++ [" ".intercalate (Value.printAll args)] := by
    rw [Job.run, Eval.run_apply_primitive, if_pos (performed.print_fits succeeded),
      Eval.run_callPrimitive]
    exact Array.toList_appendList ..
  rw [← shown]
  exact performed.printed

end Calls

-- No budget is named in the run, or it would be counted down from.
theorem evaluate_of_run {need : Nat} {expr : Value} (v : Value) (lines : List String)
    (read : Reader.read depth code = .ok [expr])
    (ran : ∀ more, ((eval (more + need) 0 expr).run (.ofGlobals session.globals 0)).1 = .ok v)
    (shown : ∀ more,
      ((eval (more + need) 0 expr).run (.ofGlobals session.globals 0)).2.printed.toList = lines)
    (enough : need ≤ depth) (fits : v.depth ≤ depth) :
    (session.evaluate depth code).1 = .ok (Session.answer v lines) := by
  obtain ⟨more, rfl⟩ := Nat.exists_eq_add_of_le' enough
  rw [evaluate_of_read read]
  simp only [ran more, shown more]
  exact if_pos fits

end Session

/-- Where a program succeeds, splitting its output at line breaks gives the lines printed, in their
order and with empty ones among them, and then the result. The reader takes the result for one
expression and a line for as many as its call of `print` had arguments. -/
theorem evaluate_framed {depth : Nat} {session : Session} (reached : session.Reachable)
    {code : String} {answer : Session.Answer}
    (succeeded : (session.evaluate depth code).1 = .ok answer) :
    session.LineFramed depth code answer := by
  have quote := Symbol.quote_worded
  have admits := Reader.admits_worded code
  obtain ⟨v, ended, fits, rfl⟩ := Session.evaluate_eq_ok succeeded
  obtain ⟨sound, data⟩ := reached.worded.evalValue quote depth code admits
  rw [ended] at data
  have unbroken : ∀ line ∈ (session.evaluate depth code).2.printed, '\n' ∉ line.toList := by
    intro line member
    obtain ⟨args, each, rfl⟩ := sound.printed line member
    exact Value.line_unbroken fun w shown => (each w shown).unbroken
  refine ⟨⟨data.unbroken, unbroken⟩, ?_, ?_, ?_, fun _ _ _ performed => performed.print_shows ended⟩
  · rw [Session.answer, lines_before]
    refine split_lines (by simp) fun line member => ?_
    rcases List.mem_append.mp member with printed | last
    · exact unbroken line printed
    · rw [List.mem_singleton.mp last]
      exact data.unbroken
  · obtain ⟨expr, reads⟩ := Value.print_reads data fits
    exact ⟨v, expr, ended, rfl, reads⟩
  · intro line member
    obtain ⟨budget, args, store, performed, rfl⟩ := Session.performs_of_printed member
    have each := (reached.worded.performs quote admits performed).2.2.1
    have room : Value.depthAll args ≤ depth :=
      (performed.print_fits ended).trans performed.budget_le
    obtain ⟨exprs, reads, many⟩ := Value.line_reads each room
    exact ⟨budget, args, store, exprs, performed, rfl, reads, many⟩

theorem evaluate_framed_called :
    let session := (Session.initial.evaluate 100 "(defun f (x) (print x x))").2
    let code := "(list (print) (f '(b)) 'c)"
    let answer : Session.Answer := ⟨"(NIL NIL C)", "\n(B) (B)\n(NIL NIL C)"⟩
    session.Reachable ∧ (session.evaluate 100 code).1 = .ok answer ∧
      session.LineFramed 100 code answer := by
  intro session code answer
  have reached : session.Reachable := .evaluate .initial _ _
  have succeeded : (session.evaluate 100 code).1 = .ok answer := by
    let body : Value := .list [.symbol ⟨"print"⟩, .symbol ⟨"x"⟩, .symbol ⟨"x"⟩]
    let call : Value := .list [.symbol ⟨"f"⟩, .list [.symbol ⟨"quote"⟩, .list [.symbol ⟨"b"⟩]]]
    let expr : Value := .list [.symbol ⟨"list"⟩, .list [.symbol ⟨"print"⟩], call,
      .list [.symbol ⟨"quote"⟩, .symbol ⟨"c"⟩]]
    have defines : Session.Defines 100 "(defun f (x) (print x x))" ⟨"f"⟩ [⟨"x"⟩] [body] := rfl
    have read : Reader.read 100 "(list (print) (f '(b)) 'c)" = .ok [expr] := rfl
    change ((Session.initial.evaluate 100 _).2.evaluate 100 code).1 = _
    rw [Session.evaluate_definition .initial defines]
    have enough : 6 ≤ 100 := by decide
    exact Session.evaluate_of_run (.list [.nil, .nil, .symbol ⟨"c"⟩]) ["", "(B) (B)"] read
      (fun _ => rfl) (fun _ => rfl) enough (by decide)
  exact ⟨reached, succeeded, evaluate_framed reached succeeded⟩

end PocketLisp
