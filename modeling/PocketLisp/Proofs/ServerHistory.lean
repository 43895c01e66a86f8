import Mathlib.Data.List.DropRight
import Mathlib.Logic.Relation
import PocketLisp.Server
import PocketLisp.Proofs.Repeatable

set_option autoImplicit false

namespace PocketLisp

theorem Session.evaluateAll_concat (depth : Nat) (session : Session) (codes : List String)
    (code : String) :
    session.evaluateAll depth (codes ++ [code]) =
      ((session.evaluateAll depth codes).evaluate depth code).2 := by
  induction codes generalizing session with
  | nil => rfl
  | cons first rest ih => exact ih (session.evaluate depth first).2

namespace Server

def handleAll (server : Server) : List Json → List Reply × Server
  | [] => ([], server)
  | request :: rest =>
    let (reply, next) := server.handle request
    let (replies, final) := next.handleAll rest
    (reply :: replies, final)

theorem handleAll_concat (server : Server) (requests : List Json) (request : Json) :
    (server.handleAll (requests ++ [request])).2 =
      ((server.handleAll requests).2.handle request).2 := by
  induction requests generalizing server with
  | nil => rfl
  | cons first rest ih => exact ih (server.handle first).2

theorem handle_depth (server : Server) (request : Json) :
    (server.handle request).2.depth = server.depth := by
  unfold handle
  cases Request.ofJson request <;> rfl

theorem handleAll_depth (server : Server) (requests : List Json) :
    (server.handleAll requests).2.depth = server.depth := by
  induction requests generalizing server with
  | nil => rfl
  | cons request rest ih => exact (ih _).trans (server.handle_depth request)

def program? (request : Json) : Option String :=
  match request.field? "cmd", request.field? "code" with
  | some (.str "eval"), none => some ""
  | some (.str "eval"), some (.str code) => some code
  | _, _ => none

def resets (request : Json) : Bool :=
  match request.field? "cmd" with
  | some (.str "reset") => true
  | _ => false

inductive Refused (request : Json) : Prop
  | shape (other : ∀ fields, request ≠ .obj fields)
  | command (not_eval : request.field? "cmd" ≠ some (.str "eval"))
      (not_reset : request.field? "cmd" ≠ some (.str "reset"))
  | code {given : Json} (eval : request.field? "cmd" = some (.str "eval"))
      (code : request.field? "code" = some given) (other : ∀ text, given ≠ .str text)

section Kinds

variable {request : Json}

theorem ofJson_of_field {key : String} {v : Json} (found : request.field? key = some v) :
    Request.ofJson request =
      match (request.field? "cmd").getD .null with
      | .str "eval" => Request.ofCode? (request.field? "code")
      | .str "reset" => .reset
      | cmd => .invalid ("Unknown cmd: " ++ cmd.display) := by
  cases request with
  | obj fields => rfl
  | _ => cases found

theorem ofJson_program {code : String} (asked : program? request = some code) :
    Request.ofJson request = .eval code := by
  unfold program? at asked
  split at asked
  · next cmd absent =>
    cases asked
    rw [ofJson_of_field cmd, cmd, absent]
    rfl
  · next cmd given =>
    cases asked
    rw [ofJson_of_field cmd, cmd, given]
    rfl
  · cases asked

theorem ofJson_resets (asked : resets request = true) : Request.ofJson request = .reset := by
  unfold resets at asked
  split at asked
  · next cmd =>
    rw [ofJson_of_field cmd, cmd]
    rfl
  · cases asked

theorem Refused.ofJson (refused : Refused request) :
    ∃ error, Request.ofJson request = .invalid error := by
  cases refused with
  | shape other =>
    cases request with
    | obj fields => exact absurd rfl (other fields)
    | _ => exact ⟨_, rfl⟩
  | command not_eval not_reset =>
    cases request with
    | obj fields =>
      cases found : (Json.obj fields).field? "cmd" with
      | none => exact ⟨_, by rw [Request.ofJson, found]; rfl⟩
      | some cmd =>
        rw [found] at not_eval not_reset
        simp only [Request.ofJson, found, Option.getD_some]
        split
        · exact absurd rfl not_eval
        · exact absurd rfl not_reset
        · exact ⟨_, rfl⟩
    | _ => exact ⟨_, rfl⟩
  | @code given eval code other =>
    rw [ofJson_of_field eval, eval, code]
    cases given with
    | str text => exact absurd rfl (other text)
    | _ => exact ⟨_, rfl⟩

theorem program_or_resets_or_refused (request : Json) :
    (∃ code, program? request = some code) ∨ resets request = true ∨ Refused request := by
  by_cases reset : request.field? "cmd" = some (.str "reset")
  · exact .inr (.inl (by rw [resets, reset]; rfl))
  · by_cases eval : request.field? "cmd" = some (.str "eval")
    · cases code : request.field? "code" with
      | none => exact .inl ⟨"", by rw [program?, eval, code]; rfl⟩
      | some given =>
        cases given with
        | str text => exact .inl ⟨text, by rw [program?, eval, code]; rfl⟩
        | _ => exact .inr (.inr (.code eval code (by simp)))
    · exact .inr (.inr (.command eval reset))

theorem resets_eq_false {code : String} (asked : program? request = some code) :
    resets request = false := by
  cases reset : resets request with
  | false => rfl
  | true => exact nomatch (ofJson_program asked).symm.trans (ofJson_resets reset)

theorem Refused.resets_eq_false (refused : Refused request) : resets request = false := by
  obtain ⟨error, invalid⟩ := refused.ofJson
  cases reset : resets request with
  | false => rfl
  | true => exact nomatch invalid.symm.trans (ofJson_resets reset)

theorem Refused.program?_eq_none (refused : Refused request) : program? request = none := by
  obtain ⟨error, invalid⟩ := refused.ofJson
  cases asked : program? request with
  | none => rfl
  | some code => exact nomatch invalid.symm.trans (ofJson_program asked)

end Kinds

def pending (history : List Json) : List String :=
  (history.rtakeWhile (!resets ·)).filterMap program?

section Memory

theorem pending_concat (history : List Json) (request : Json) :
    pending (history ++ [request]) =
      if resets request then [] else pending history ++ (program? request).toList := by
  cases reset : resets request <;> cases asked : program? request <;> simp [pending, reset, asked]

theorem pending_append_congr {history kept : List Json} (same : pending history = pending kept)
    (later : List Json) : pending (history ++ later) = pending (kept ++ later) := by
  induction later using List.reverseRecOn with
  | nil => simpa using same
  | append_singleton later request ih =>
    rw [← List.append_assoc, ← List.append_assoc, pending_concat, pending_concat, ih]

theorem handleAll_session (limit : Int) (depth : Nat) (history : List Json) :
    ((initial limit depth).handleAll history).2.session =
      Session.initial.evaluateAll depth (pending history) := by
  induction history using List.reverseRecOn with
  | nil => rfl
  | append_singleton history request ih =>
    rw [handleAll_concat, handle, pending_concat]
    rcases program_or_resets_or_refused request with ⟨code, asked⟩ | reset | refused
    · rw [ofJson_program asked, resets_eq_false asked, asked]
      simp only [Bool.false_eq_true, if_false, Option.toList_some, Session.evaluateAll_concat, ← ih,
        evaluate, handleAll_depth]
      rfl
    · rw [ofJson_resets reset, reset]
      rfl
    · obtain ⟨error, invalid⟩ := refused.ofJson
      rw [invalid, refused.resets_eq_false, refused.program?_eq_none]
      simpa using ih

-- What the last program printed is never looked at.
theorem handle_congr {one two : Server} (same : one.session.globals = two.session.globals)
    (depth : one.depth = two.depth) (request : Json) :
    (one.handle request).1 = (two.handle request).1 ∧
      (one.handle request).2.session.globals = (two.handle request).2.session.globals := by
  unfold handle
  cases Request.ofJson request with
  | eval code => simp [evaluate, depth, Session.evaluate_of_globals same]
  | reset => simp
  | invalid error => exact ⟨rfl, same⟩

theorem handleAll_congr {one two : Server} (same : one.session.globals = two.session.globals)
    (depth : one.depth = two.depth) (requests : List Json) :
    (one.handleAll requests).1 = (two.handleAll requests).1 := by
  induction requests generalizing one two with
  | nil => rfl
  | cons request rest ih =>
    have first := handle_congr same depth request
    have later := ih first.2 (by rw [handle_depth, handle_depth, depth])
    simp only [handleAll, first.1, later]

end Memory

/-- A history with less in it: a refused request is gone, or some of what came before a reset. -/
inductive Strikes : List Json → List Json → Prop
  | refused {request : Json} (refused : Refused request) (earlier later : List Json) :
      Strikes (earlier ++ request :: later) (earlier ++ later)
  | forgotten {reset : Json} (resets : resets reset = true) {earlier kept : List Json}
      (fewer : kept.Sublist earlier) (later : List Json) :
      Strikes (earlier ++ reset :: later) (kept ++ reset :: later)

theorem Strikes.pending_eq {history kept : List Json} (strikes : Strikes history kept) :
    pending history = pending kept := by
  cases strikes with
  | @refused request refused earlier later =>
    have same : pending (earlier ++ [request]) = pending earlier := by
      simp [pending_concat, refused.resets_eq_false, refused.program?_eq_none]
    simpa using pending_append_congr same later
  | @forgotten reset resets earlier kept fewer later =>
    have same : pending (earlier ++ [reset]) = pending (kept ++ [reset]) := by
      simp [pending_concat, resets]
    simpa using pending_append_congr same later

/-- The reply to a request is that of a server which has done nothing but evaluate the programs
since the last reset, whatever lines these left behind. So it makes no difference to later replies
when refused requests are struck from the history, or requests before a reset, and servers that were
reset answer alike. -/
theorem replies_of_pending :
    (∀ limit other depth history lines request,
      let session := Session.initial.evaluateAll depth (pending history)
      (((initial limit depth).handleAll history).2.handle request).1 =
        (handle ⟨{ session with printed := lines }, other, depth⟩ request).1) ∧
    (∀ limit other depth history kept, Relation.ReflTransGen Strikes history kept → ∀ later,
      (((initial limit depth).handleAll history).2.handleAll later).1 =
        (((initial other depth).handleAll kept).2.handleAll later).1) ∧
    ∀ (one two : Server), one.depth = two.depth → ∀ reset, resets reset = true → ∀ later,
      ((one.handle reset).2.handleAll later).1 = ((two.handle reset).2.handleAll later).1 := by
  refine ⟨?_, ?_, ?_⟩
  · intro limit other depth history lines request session
    have same := congrArg Session.globals (handleAll_session limit depth history)
    have left : ((initial limit depth).handleAll history).2.depth = depth := handleAll_depth ..
    exact (handle_congr same left request).1
  · intro limit other depth history kept strikes later
    have same : pending history = pending kept := by
      induction strikes with
      | refl => rfl
      | tail _ last ih => exact ih.trans last.pending_eq
    apply handleAll_congr
    · rw [handleAll_session, handleAll_session, same]
    · rw [handleAll_depth, handleAll_depth]
      rfl
  · intro one two depth reset asked later
    apply handleAll_congr
    · rw [handle, handle, ofJson_resets asked]
    · rw [handle_depth, handle_depth, depth]

-- A definition that a reset took back, requests that make no sense, and a program that defines a
-- function before it fails.
theorem replies_of_pending_mixed :
    let eval code := Json.obj [("cmd", .str "eval"), ("code", .str code)]
    let reset := Json.obj [("code", .int 7), ("cmd", .str "reset")]
    let history := [eval "(defun f () 1)", reset, .arr [], eval "(defun f () 2) (g)",
      .obj [("cmd", .str "eval"), ("code", .int 5)]]
    let kept := [reset, eval "(defun f () 2) (g)"]
    Relation.ReflTransGen Strikes history kept ∧ resets reset = true ∧
      pending history = ["(defun f () 2) (g)"] ∧
      ∀ later,
        (((initial 4 100).handleAll history).2.handleAll later).1 =
          (((initial 9 100).handleAll kept).2.handleAll later).1 ∧
        ((((initial 4 100).handleAll history).2.handle reset).2.handleAll later).1 =
          (((initial 9 100).handle reset).2.handleAll later).1 := by
  intro eval reset history kept
  have asked : resets reset = true := rfl
  have noise : Refused (.arr []) := .shape (by simp)
  have number : Refused (.obj [("cmd", .str "eval"), ("code", .int 5)]) :=
    @Refused.code _ (.int 5) rfl rfl (by simp)
  have strikes : Relation.ReflTransGen Strikes history kept := by
    let program := eval "(defun f () 2) (g)"
    let forgotten := eval "(defun f () 1)"
    refine .head (.refused number [forgotten, reset, .arr [], program] []) ?_
    refine .head (.refused noise [forgotten, reset] [program]) ?_
    exact .single (.forgotten asked (List.nil_sublist [forgotten]) [program])
  have depth : ((initial 4 100).handleAll history).2.depth = (initial 9 100).depth :=
    handleAll_depth ..
  obtain ⟨-, struck, cleared⟩ := replies_of_pending
  exact ⟨strikes, asked, rfl, fun later =>
    ⟨struck 4 9 100 history kept strikes later, cleared _ _ depth reset asked later⟩⟩

end Server

end PocketLisp
