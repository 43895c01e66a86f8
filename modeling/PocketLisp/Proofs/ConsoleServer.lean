import PocketLisp.Console
import PocketLisp.Proofs.ClientStream
import PocketLisp.Proofs.Joining
import PocketLisp.Proofs.NestingRoom
import PocketLisp.Proofs.ServerHistory

set_option autoImplicit false

namespace PocketLisp

section Blanks

namespace Token

theorem scanFrom_blanks {blanks : List Char} (all : ∀ c ∈ blanks, Text.isBlank c = true)
    (rest : List Char) : scanFrom [] (blanks ++ rest) = scanFrom [] rest := by
  induction blanks with
  | nil => rfl
  | cons c blanks ih =>
    obtain ⟨blank, others⟩ := List.forall_mem_cons.mp all
    simpa [scanFrom, delimiter?_blank blank, blank, pending] using ih others

theorem scanFrom_append_blanks {blanks : List Char} (all : ∀ c ∈ blanks, Text.isBlank c = true)
    (text : List Char) : scanFrom [] (text ++ blanks) = scanFrom [] text := by
  cases blanks with
  | nil => rw [List.append_nil]
  | cons c blanks =>
    obtain ⟨blank, others⟩ := List.forall_mem_cons.mp all
    have none := scanFrom_blanks others []
    rw [List.append_nil] at none
    rw [scanFrom_append_blank (delimiter?_blank blank) blank, none]
    exact List.append_nil _

theorem scan_strip (text : String) : scan (Text.strip text) = scan text := by
  obtain ⟨left, right, same, before, behind⟩ :=
    (Text.trimBoth_trims Text.isBlank text.toList).around
  rw [scan, scan, Text.strip, String.toList_ofList, same, scanFrom_blanks before,
    scanFrom_append_blanks behind, ← same]

end Token

theorem Session.evaluate_strip (depth : Nat) (session : Session) (text : String) :
    session.evaluate depth (Text.strip text) = session.evaluate depth text := by
  simp only [evaluate, evalValue, Reader.read, Token.scan_strip]

end Blanks

section Messages

def StartsOff (c : Char) (text : String) : Prop :=
  ∃ d, text.toList.head? = some d ∧ d ≠ c

theorem StartsOff.append {c : Char} {text : String} (starts : StartsOff c text) (more : String) :
    StartsOff c (text ++ more) := by
  obtain ⟨d, head, other⟩ := starts
  exact ⟨d, by simp [head], other⟩

theorem StartsOff.ne_tooDeep {text : String} (starts : StartsOff 'M' text) :
    text ≠ Server.faultText .tooDeep := by
  rintro rfl
  obtain ⟨d, head, other⟩ := starts
  have first : (Server.faultText .tooDeep).toList.head? = some 'M' := rfl
  exact other (Option.some.inj (head.symm.trans first))

theorem Primitive.name_starts (p : Primitive) : StartsOff 'M' p.name := by
  cases p <;> exact ⟨_, rfl, by decide⟩

-- No error of a program can be taken for the limit on nesting.
theorem LispError.message_ne_tooDeep (e : LispError) : e.message ≠ Server.faultText .tooDeep := by
  cases e with
  | unexpectedEnd | unmatchedParenthesis | unexpectedParenthesis | danglingQuote | quoteShape
  | ifShape | defunShape | divisionByZero | emptyList => decide
  | arity p _ _ => exact ((((p.name_starts.append _).append _).append _).append _).ne_tooDeep
  | noArguments p => exact (p.name_starts.append _).ne_tooDeep
  | notAList p _ => exact ((p.name_starts.append _).append _).ne_tooDeep
  | notANumber =>
    apply StartsOff.ne_tooDeep
    exact ((StartsOff.append ⟨_, rfl, by decide⟩ _).append _).append _
  | callableUsedAsValue | defunParams | cannotBind =>
    apply StartsOff.ne_tooDeep
    exact (StartsOff.append ⟨_, rfl, by decide⟩ _).append _
  | unboundSymbol | unboundName | undefinedFunction | notAFunction | inapplicable | uninterpretable
  | defunName =>
    apply StartsOff.ne_tooDeep
    exact StartsOff.append ⟨_, rfl, by decide⟩ _

end Messages

namespace Console

def quits (line : String) : Bool :=
  Text.strip line == ":quit" || Text.strip line == ":q"

/-- The request that a line stands for. Blank lines stand for none, and programs are left as they
are, with the blanks around them. -/
def request? (line : String) : Option Json :=
  if Text.strip line = "" then none
  else if Text.strip line = ":reset" then some (.obj [("cmd", .str "reset")])
  else some (.obj [("cmd", .str "eval"), ("code", .str line)])

/-- What is written where the server gives a reply. The limit on nesting is reported with a small
letter. -/
def transcript : Reply → String
  | .done => "session reset" ++ "\n"
  | .evaluated answer => answer.output ++ "\n"
  | .failed error =>
    if error = "Maximum recursion depth exceeded" then
      "error: " ++ "maximum recursion depth exceeded" ++ "\n"
    else "error: " ++ error ++ "\n"

theorem transcript_fault (fault : Fault) :
    transcript (.failed (Server.faultText fault)) = "error: " ++ faultText fault ++ "\n" := by
  cases fault with
  | error e => exact if_neg e.message_ne_tooDeep
  | tooDeep => rfl

theorem runSource_eq_evaluate (server : Server) (line : String) :
    runSource server.depth server.session (Text.strip line) =
      ⟨transcript (server.evaluate line).1, (server.session.evaluate server.depth line).1.isOk,
        (server.evaluate line).2.session⟩ := by
  rw [runSource, Server.evaluate, Session.evaluate_strip]
  rcases server.session.evaluate server.depth line with ⟨fault | answer, next⟩
  · rw [transcript_fault]
    rfl
  · rfl

section Lines

variable {line : String}

theorem ofLine_blank (blank : Text.strip line = "") : Command.ofLine line = .skip := by
  simp [Command.ofLine, blank]

theorem ofLine_reset (reset : Text.strip line = ":reset") : Command.ofLine line = .reset := by
  simp [Command.ofLine, reset]

theorem ofLine_program (stays : quits line = false) (written : Text.strip line ≠ "")
    (program : Text.strip line ≠ ":reset") :
    Command.ofLine line = .run (Text.strip line) := by
  simp only [quits, Bool.or_eq_false_iff, beq_eq_false_iff_ne] at stays
  simp [Command.ofLine, stays, written, program]

theorem ofLine_ne_quit (stays : quits line = false) : Command.ofLine line ≠ .quit := by
  by_cases blank : Text.strip line = ""
  · simp [ofLine_blank blank]
  · by_cases reset : Text.strip line = ":reset"
    · simp [ofLine_reset reset]
    · simp [ofLine_program stays blank reset]

theorem replFrom_cons (depth : Nat) (prompt : String) (session : Session)
    (stays : quits line = false) (rest : List String) :
    replFrom depth prompt session (line :: rest) =
      let (text, next) := perform depth session (Command.ofLine line)
      let (more, final) := replFrom depth prompt next rest
      (text ++ prompt ++ more, final) := by
  rw [replFrom]
  split
  · next quit => exact absurd quit (ofLine_ne_quit stays)
  · rfl

-- One line: the console and the server stay together, and write the same.
theorem perform_eq_handle (server : Server) (stays : quits line = false) :
    perform server.depth server.session (Command.ofLine line) =
      match request? line with
      | none => ("", server.session)
      | some request =>
        (transcript (server.handle request).1, (server.handle request).2.session) := by
  by_cases blank : Text.strip line = ""
  · rw [ofLine_blank blank, request?, if_pos blank]
    rfl
  · by_cases reset : Text.strip line = ":reset"
    · rw [ofLine_reset reset, request?, if_neg blank, if_pos reset]
      rfl
    · rw [ofLine_program stays blank reset, request?, if_neg blank, if_neg reset]
      simp only [perform, runSource_eq_evaluate]
      rfl

end Lines

theorem replFrom_eq_handleAll (server : Server) {lines : List String}
    (stays : ∀ line ∈ lines, quits line = false) :
    replFrom server.depth "" server.session lines =
      (String.join ((server.handleAll (lines.filterMap request?)).1.map transcript),
        (server.handleAll (lines.filterMap request?)).2.session) := by
  induction lines generalizing server with
  | nil => rfl
  | cons line rest ih =>
    obtain ⟨first, others⟩ := List.forall_mem_cons.mp stays
    rw [replFrom_cons server.depth "" server.session first, perform_eq_handle server first]
    cases asked : request? line with
    | none => simp [asked, ih _ others]
    | some request =>
      have later := ih (server.handle request).2 others
      rw [server.handle_depth request] at later
      simp [asked, later, Server.handleAll]

-- The command does not meet the limit on nesting.
def fits (depth : Nat) (session : Session) : Command → Bool
  | .run code =>
    match (session.evaluate depth code).1 with
    | .error .tooDeep => false
    | _ => true
  | _ => true

def fitsAll (depth : Nat) (session : Session) : List String → Bool
  | [] => true
  | line :: rest =>
    fits depth session (Command.ofLine line) &&
      fitsAll depth (perform depth session (Command.ofLine line)).2 rest

section Depth

theorem evaluate_ne_tooDeep {depth : Nat} {session : Session} {code : String}
    (fit : fits depth session (.run code) = true) :
    (session.evaluate depth code).1 ≠ .error .tooDeep := by
  intro limit
  simp [fits, limit] at fit

variable {depth more : Nat} (less : depth ≤ more) {session : Session}

include less

theorem perform_deeper {command : Command} (fit : fits depth session command = true) :
    perform more session command = perform depth session command := by
  cases command with
  | run code =>
    simp only [perform, runSource, session.evaluate_deeper less code (evaluate_ne_tooDeep fit)]
  | _ => rfl

theorem fits_deeper {command : Command} (fit : fits depth session command = true) :
    fits more session command = true := by
  cases command with
  | run code =>
    rw [fits, session.evaluate_deeper less code (evaluate_ne_tooDeep fit)]
    exact fit
  | _ => rfl

theorem fitsAll_deeper {lines : List String} (fit : fitsAll depth session lines = true) :
    fitsAll more session lines = true := by
  induction lines generalizing session with
  | nil => rfl
  | cons line rest ih =>
    obtain ⟨first, later⟩ := Bool.and_eq_true_iff.mp fit
    rw [fitsAll, fits_deeper less first, perform_deeper less first, Bool.true_and]
    exact ih later

theorem replFrom_deeper (prompt : String) {lines : List String}
    (stays : ∀ line ∈ lines, quits line = false) (fit : fitsAll depth session lines = true) :
    replFrom more prompt session lines = replFrom depth prompt session lines := by
  induction lines generalizing session with
  | nil => rfl
  | cons line rest ih =>
    obtain ⟨one, others⟩ := List.forall_mem_cons.mp stays
    obtain ⟨first, later⟩ := Bool.and_eq_true_iff.mp fit
    rw [replFrom_cons more prompt session one, replFrom_cons depth prompt session one,
      perform_deeper less first]
    simp only [ih others later]

end Depth

/-- As long as no line quits, the console writes what the replies to its lines say, in their order,
and both hosts end in the same session, if they leave programs the same depth, or if no program
among the lines meets the limit of the host that leaves less. -/
theorem repl_eq_transcript (limit : Int) (console server : Nat) (lines : List String)
    (stays : ∀ line ∈ lines, quits line = false)
    (room : console = server ∨ fitsAll (min console server) .initial lines = true) :
    let served := (Server.initial limit server).handleAll (lines.filterMap request?)
    (repl console "" lines).1 = String.join (served.1.map transcript) ∧
      (repl console "" lines).2 = served.2.session := by
  intro served
  have same : replFrom console "" .initial lines = replFrom server "" .initial lines := by
    rcases room with rfl | fit
    · rfl
    · rw [replFrom_deeper (Nat.min_le_left ..) "" stays fit,
        replFrom_deeper (Nat.min_le_right ..) "" stays fit]
  have run := replFrom_eq_handleAll (Server.initial limit server) stays
  change replFrom server "" Session.initial lines = _ at run
  simp [repl, same, run, served]

-- A program that fails after a definition, a blank line, a reset between blanks, and a line that
-- breaks off.
theorem repl_eq_transcript_mixed :
    let lines := [" (defun f () 'x) (g)\n", "\t\n", "(f)", " :reset ", "(f"]
    let eval code := Json.obj [("cmd", .str "eval"), ("code", .str code)]
    (∀ line ∈ lines, quits line = false) ∧
      fitsAll (min defaultDepth Server.defaultDepth) .initial lines = true ∧
      lines.filterMap request? =
        [eval " (defun f () 'x) (g)\n", eval "(f)", .obj [("cmd", .str "reset")], eval "(f"] ∧
      let served := (Server.initial 100 Server.defaultDepth).handleAll (lines.filterMap request?)
      (repl defaultDepth "" lines).1 = String.join (served.1.map transcript) ∧
        (repl defaultDepth "" lines).2 = served.2.session := by
  intro lines eval
  have stays : ∀ line ∈ lines, quits line = false := by decide
  have shallow : fitsAll 5 .initial lines = true := by decide +kernel
  have fit := fitsAll_deeper (show 5 ≤ min defaultDepth Server.defaultDepth by decide) shallow
  exact ⟨stays, fit, by rfl,
    repl_eq_transcript 100 defaultDepth Server.defaultDepth lines stays (.inr fit)⟩

section Boundary

def boundary (lists : Nat) : String :=
  String.ofList ('\'' :: (List.replicate lists '(' ++
    (List.replicate lists ')' ++ " (defun h ())".toList)))

def nest : Nat → Value
  | 0 => .list []
  | lists + 1 => .list [nest lists]

theorem depth_nest (lists : Nat) : (nest lists).depth = lists + 1 := by
  induction lists with
  | zero => rfl
  | succ lists ih => simp [nest, Value.depth, Value.depthAll, ih]

theorem scanFrom_replicate {c : Char} {token : Token} (delimiter : Token.delimiter? c = some token)
    (count : Nat) (rest : List Char) :
    Token.scanFrom [] (List.replicate count c ++ rest) =
      List.replicate count token ++ Token.scanFrom [] rest := by
  induction count with
  | zero => rfl
  | succ count ih =>
    rw [List.replicate_succ, List.replicate_succ, List.cons_append, Token.scanFrom, delimiter, ih]
    rfl

theorem scan_boundary (lists : Nat) : Token.scan (boundary lists) =
    .quote :: (List.replicate lists .lparen ++ List.replicate lists .rparen) ++
      [.lparen, .word "defun", .word "h", .lparen, .rparen, .rparen] := by
  have opened := scanFrom_replicate (c := '(') rfl lists
  have closed := scanFrom_replicate (c := ')') rfl lists
  have tail : Token.scanFrom [] " (defun h ())".toList =
      [.lparen, .word "defun", .word "h", .lparen, .rparen, .rparen] := by rfl
  rw [Token.scan, boundary, String.toList_ofList, Token.scanFrom]
  change .quote :: Token.scanFrom [] _ = _
  rw [opened, closed, tail, List.cons_append, List.append_assoc]

theorem derives_nest (lists : Nat) :
    Reader.Derives (List.replicate (lists + 1) .lparen ++ List.replicate (lists + 1) .rparen)
      (nest lists) := by
  induction lists with
  | zero => exact .list .nil
  | succ lists ih =>
    have inner := Reader.Derives.list (.cons ih .nil)
    rw [List.append_nil, List.append_assoc, ← List.replicate_succ'] at inner
    exact inner

theorem read_boundary (depth lists : Nat) : Reader.read depth (boundary (lists + 1)) =
    if lists + 2 ≤ depth then
      .ok [.list [.symbol ⟨"quote"⟩, nest lists],
        .list [.symbol ⟨"defun"⟩, .symbol ⟨"h"⟩, .list []]]
    else .error .tooDeep := by
  have definition : Reader.Derives [.lparen, .word "defun", .word "h", .lparen, .rparen, .rparen]
      (.list [.symbol ⟨"defun"⟩, .symbol ⟨"h"⟩, .list []]) :=
    .list (.cons (.word "defun") (.cons (.word "h") (.cons (.list .nil) .nil)))
  have derives := Reader.DerivesAll.cons (.quote (derives_nest lists)) (.cons definition .nil)
  rw [List.append_nil] at derives
  rw [Reader.read, scan_boundary, derives.readAll_eq_ite]
  have deep : Value.depthAll [.list [.symbol ⟨"quote"⟩, nest lists],
      .list [.symbol ⟨"defun"⟩, .symbol ⟨"h"⟩, .list []]] = lists + 2 := by
    simp [Value.depthAll, Value.depth, depth_nest]
  rw [deep]

theorem evaluate_boundary {depth lists : Nat} (fits : lists + 2 ≤ depth) (session : Session) :
    session.evaluate depth (boundary (lists + 1)) =
      (.ok ⟨"H", "H"⟩, ⟨session.globals.define ⟨"h"⟩ (.function 0 "h" [] [] 0), []⟩) := by
  have read := (read_boundary depth lists).trans (if_pos fits)
  obtain ⟨more, rfl⟩ := Nat.exists_eq_add_of_le' (Nat.le_of_add_left_le fits)
  simp only [Session.evaluate, Session.evalValue_of_read read]
  rfl

theorem evaluate_boundary_tooDeep {depth lists : Nat} (deep : depth < lists + 2)
    (session : Session) :
    session.evaluate depth (boundary (lists + 1)) =
      (.error .tooDeep, ⟨session.globals, []⟩) := by
  have read := (read_boundary depth lists).trans (if_neg (Nat.not_le_of_lt deep))
  rw [Session.evaluate, Session.evalValue_of_unreadable read]
  rfl

theorem strip_boundary (lists : Nat) : Text.strip (boundary lists) = boundary lists := by
  have trims : Text.Trims Text.isBlank (boundary lists).toList (boundary lists).toList := by
    refine ⟨⟨[], [], by simp, by simp, by simp⟩, ?_, ?_⟩
    · simp only [boundary, String.toList_ofList, List.head?_cons, Option.mem_def, Option.some.injEq,
        forall_eq']
      decide
    · have last : " (defun h ())".toList.getLast? = some ')' := by decide
      simp only [boundary, String.toList_ofList, List.getLast?_cons, List.getLast?_append, last,
        Option.some_or, Option.getD_some, Option.mem_def, Option.some.injEq, forall_eq']
      decide
  rw [Text.strip, trims.eq_trimBoth, String.ofList_toList]

theorem boundary_program (lists : Nat) : quits (boundary lists) = false ∧
    request? (boundary lists) =
      some (.obj [("cmd", .str "eval"), ("code", .str (boundary lists))]) := by
  have other : ∀ text : String, text.toList.head? ≠ some '\'' → boundary lists ≠ text := by
    rintro _ head rfl
    exact head (by simp [boundary])
  have written := other "" (by decide)
  have program := other ":reset" (by decide)
  have quit := other ":quit" (by decide)
  have short := other ":q" (by decide)
  simp [quits, request?, strip_boundary, written, program, quit, short]

theorem handleAll_boundary (server : Server) (lists : Nat) :
    server.handleAll ([boundary lists].filterMap request?) =
      ([(server.evaluate (boundary lists)).1], (server.evaluate (boundary lists)).2) := by
  simp only [List.filterMap_cons, (boundary_program lists).2, List.filterMap_nil]
  rfl

theorem boundary_refused {console lists : Nat} (deep : console < lists + 2) :
    repl console "" [boundary (lists + 1)] =
      ("error: maximum recursion depth exceeded\n", Session.initial) := by
  have stays : ∀ line ∈ [boundary (lists + 1)], quits line = false :=
    List.forall_mem_singleton.mpr (boundary_program _).1
  have run := replFrom_eq_handleAll (Server.initial 0 console) stays
  rw [handleAll_boundary, Server.evaluate] at run
  change replFrom console "" Session.initial _ = _ at run
  rw [repl, run]
  simp only [Server.initial, evaluate_boundary_tooDeep deep]
  rfl

theorem boundary_answered {server lists : Nat} (fits : lists + 2 ≤ server) (limit : Int) :
    let served :=
      (Server.initial limit server).handleAll ([boundary (lists + 1)].filterMap request?)
    String.join (served.1.map transcript) = "H\n" ∧
      served.2.session.globals = Environment.initial.define ⟨"h"⟩ (.function 0 "h" [] [] 0) := by
  simp only [handleAll_boundary, Server.evaluate, Server.initial, evaluate_boundary fits]
  exact ⟨rfl, rfl⟩

theorem boundary_tells {console server lists : Nat} (deep : console < lists + 2)
    (fits : lists + 2 ≤ server) (limit : Int) :
    let line := boundary (lists + 1)
    let served := (Server.initial limit server).handleAll ([line].filterMap request?)
    quits line = false ∧
      (repl console "" [line]).1 ≠ String.join (served.1.map transcript) ∧
      (repl console "" [line]).2.globals ≠ served.2.session.globals := by
  intro line served
  obtain ⟨text, globals⟩ := boundary_answered fits limit
  refine ⟨(boundary_program _).1, ?_, ?_⟩
  · rw [boundary_refused deep, text]
    decide
  · rw [boundary_refused deep, globals]
    intro same
    have bound := congrArg (Environment.get? · ⟨"h"⟩) same
    rw [Environment.get?_define, if_pos rfl] at bound
    cases bound

/-- A line that the server answers, with a definition in it, and the console refuses. -/
theorem repl_ne_transcript :
    let line := boundary (992 + 1)
    let served := (Server.initial LineBuffer.defaultLimit Server.defaultDepth).handleAll
      ([line].filterMap request?)
    quits line = false ∧
      (repl defaultDepth "" [line]).1 ≠ String.join (served.1.map transcript) ∧
      (repl defaultDepth "" [line]).2.globals ≠ served.2.session.globals := by
  have deep : defaultDepth < 992 + 2 := by decide
  have fits : 992 + 2 ≤ Server.defaultDepth := by decide
  exact boundary_tells deep fits LineBuffer.defaultLimit

end Boundary

end Console

end PocketLisp
