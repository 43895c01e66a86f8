import PocketLisp.Proofs.BigStep
import PocketLisp.Proofs.Rules

set_option autoImplicit false

namespace PocketLisp

variable {α β : Type}

def ended : Outcome α → Store → Except Fault α × Store
  | .ok a, after => (.ok a, after)
  | .error e, after => (.error (.error e), after)

theorem ended_inj {outcome other : Outcome α} {after store : Store} :
    ended outcome after = ended other store ↔ outcome = other ∧ after = store := by
  cases outcome <;> cases other <;> simp [ended]

theorem ok_eq_ended {a : α} {store after : Store} {outcome : Outcome α} :
    (.ok a, store) = ended outcome after ↔ .ok a = outcome ∧ store = after := by
  rw [← ended_inj]
  rfl

theorem error_eq_ended {e : LispError} {store after : Store} {outcome : Outcome α} :
    (.error (.error e), store) = ended outcome after ↔ .error e = outcome ∧ store = after := by
  rw [← ended_inj]
  rfl

theorem tooDeep_ne_ended {store after : Store} {outcome : Outcome α} :
    (.error .tooDeep, store) ≠ ended outcome after := by
  cases outcome <;> simp [ended]

theorem run_bind_ended {m : Run α} {next : α → Run β} {store after : Store} {outcome : Outcome β}
    (ran : (m >>= next).run store = ended outcome after) :
    (∃ e, .error e = outcome ∧ m.run store = ended (.error e) after) ∨
      ∃ a middle, m.run store = ended (.ok a) middle ∧
        (next a).run middle = ended outcome after := by
  rw [run_bind] at ran
  rcases first : m.run store with ⟨fault | a, middle⟩ <;> rw [first] at ran
  · obtain ⟨failed, rfl⟩ := Prod.mk.inj ran
    cases outcome with
    | ok b => nomatch failed
    | error e =>
      cases failed
      exact .inl ⟨e, rfl, rfl⟩
  · exact .inr ⟨a, middle, rfl, ran⟩

-- Every budget from some point on gives the one run.
def Settles (m : Nat → Run α) (store : Store) (outcome : Outcome α) (after : Store) : Prop :=
  ∃ enough, ∀ budget, enough ≤ budget → (m budget).run store = ended outcome after

namespace Settles

variable {store middle after : Store}

theorem always {m : Nat → Run α} {outcome : Outcome α}
    (ran : ∀ budget, (m budget).run store = ended outcome after) : Settles m store outcome after :=
  ⟨0, fun budget _ => ran budget⟩

theorem of_run_eq {m other : Nat → Run α} {outcome : Outcome α}
    (same : ∀ budget, (m budget).run store = (other budget).run middle)
    (settled : Settles other middle outcome after) : Settles m store outcome after := by
  obtain ⟨enough, ran⟩ := settled
  exact ⟨enough, fun budget more => (same budget).trans (ran budget more)⟩

section Bind

variable {m : Nat → Run α} {next : Nat → α → Run β}

theorem bind {a : α} {outcome : Outcome β} (first : Settles m store (.ok a) middle)
    (rest : Settles (next · a) middle outcome after) :
    Settles (fun budget => m budget >>= next budget) store outcome after := by
  obtain ⟨enough, first⟩ := first
  obtain ⟨later, rest⟩ := rest
  refine ⟨max enough later, fun budget more => ?_⟩
  rw [run_bind_ok (first budget (Nat.le_trans (Nat.le_max_left ..) more))]
  exact rest budget (Nat.le_trans (Nat.le_max_right ..) more)

theorem bind_error {e : LispError} (first : Settles m store (.error e) after) :
    Settles (fun budget => m budget >>= next budget) store (.error e) after := by
  obtain ⟨enough, first⟩ := first
  refine ⟨enough, fun budget more => ?_⟩
  rw [run_bind, first budget more]
  rfl

end Bind

theorem step {scope : Scope} {expr : Value} {outcome : Outcome Value}
    (settled : Settles (fun budget => Eval.step budget (eval budget) scope expr) store outcome
      after) :
    Settles (fun budget => eval budget scope expr) store outcome after := by
  obtain ⟨enough, ran⟩ := settled
  refine ⟨enough + 1, fun budget more => ?_⟩
  obtain ⟨budget, rfl⟩ := Nat.exists_eq_add_of_le' (Nat.le_trans (Nat.le_add_left 1 enough) more)
  exact ran budget (Nat.le_of_succ_le_succ more)

theorem unique {m : Nat → Run α} {outcome other : Outcome α} {last : Store}
    (settled : Settles m store outcome after) (again : Settles m store other last) :
    outcome = other ∧ after = last := by
  obtain ⟨enough, ran⟩ := settled
  obtain ⟨later, ran'⟩ := again
  rw [← ended_inj, ← ran _ (Nat.le_max_left enough later), ran' _ (Nat.le_max_right enough later)]

end Settles

namespace Eval

theorem specialForm?_eq_none_iff {s : Symbol} :
    specialForm? (.symbol s) = none ↔ ¬ s.Reserved := by
  constructor
  · rintro call (rfl | rfl | rfl) <;> contradiction
  · intro free
    cases special : specialForm? (.symbol s) with
    | none => rfl
    | some form =>
      obtain ⟨-, name⟩ | ⟨-, name⟩ | ⟨-, name⟩ := SpecialForm.ofSymbol?_eq_some special
      · exact absurd (.inl name) free
      · exact absurd (.inr (.inl name)) free
      · exact absurd (.inr (.inr name)) free

end Eval

theorem Resolves.call {store after : Store} {scope : Scope} {head : Value} {lines : List String}
    {outcome : Outcome Value} (resolved : Resolves store scope head lines outcome after) :
    Eval.specialForm? head = none := by
  cases resolved with
  | bound free _ => exact Eval.specialForm?_eq_none_iff.mpr free
  | undefined free _ => exact Eval.specialForm?_eq_none_iff.mpr free
  | computed computed _ => exact Eval.specialForm?_computed computed

section Settled

variable {store middle after : Store} {scope : Scope} {outcome : Outcome Value}

theorem settles_condition_error {condition yes : Value} {rest : List Value} {e : LispError}
    (shape : rest.length ≤ 1)
    (test : Settles (fun budget => eval budget scope condition) store (.error e) after) :
    Settles (fun budget => eval budget scope (.list (.symbol ⟨"if"⟩ :: condition :: yes :: rest)))
      store (.error e) after := by
  match rest with
  | [] => exact .step test.bind_error
  | [no] => exact .step test.bind_error

theorem settles_condition {condition yes v : Value} {rest : List Value} (shape : rest.length ≤ 1)
    (test : Settles (fun budget => eval budget scope condition) store (.ok v) middle)
    (branch : Settles
      (fun budget => if v.isTrue then eval budget scope yes else
        match rest with
        | no :: _ => eval budget scope no
        | [] => pure .nil) middle outcome after) :
    Settles (fun budget => eval budget scope (.list (.symbol ⟨"if"⟩ :: condition :: yes :: rest)))
      store outcome after := by
  match rest with
  | [] => exact .step (test.bind branch)
  | [no] => exact .step (test.bind branch)

theorem settles_call {head : Value} {parts : List Value} (call : Eval.specialForm? head = none)
    (settled : Settles (fun budget => Eval.evalCall budget (eval budget) scope head parts) store
      outcome after) :
    Settles (fun budget => eval budget scope (.list (head :: parts))) store outcome after :=
  .step (.of_run_eq (fun _ => by rw [Eval.step_call call]) settled)

theorem settles_args {head procedure : Value} {parts : List Value}
    (resolved : Settles (fun budget => Eval.evalHead (eval budget) scope head) store
      (.ok procedure) middle)
    (applicable : procedure.isProcedure = true)
    (settled : Settles (fun budget => do
      let args ← Eval.evalArgs (eval budget) scope parts
      Eval.apply budget (eval budget) procedure args) middle outcome after) :
    Settles (fun budget => Eval.evalCall budget (eval budget) scope head parts) store outcome
      after := by
  refine resolved.bind (.of_run_eq (fun _ => ?_) settled)
  rw [if_pos applicable]

-- A budget that what is printed fits in is enough.
theorem settles_primitive {p : Primitive} {args : List Value}
    (ran : (Eval.callPrimitive p args).run store = ended outcome after) :
    Settles (fun budget => Eval.apply budget (eval budget) (.primitive p) args) store outcome
      after := by
  refine ⟨p.reach args, fun budget fits => ?_⟩
  rw [Eval.run_apply_primitive, if_pos fits, ran]

end Settled

-- The recursion is on derivations; each rule puts the runs of its premises together.
mutual

theorem Evaluates.settles {store after : Store} {scope : Scope} {expr : Value}
    {lines : List String} {outcome : Outcome Value}
    (derived : Evaluates store scope expr lines outcome after) :
    Settles (fun budget => eval budget scope expr) store outcome after := by
  match derived with
  | .nil | .bool | .number | .text | .empty | .quote => exact .step (.always fun _ => rfl)
  | @Evaluates.procedure _ _ v procedure =>
    refine .step (.always fun _ => ?_)
    match v with
    | .primitive _ | .function .. => rfl
  | .symbol bound plain =>
    refine .step (.always fun _ => (Eval.run_reference ..).trans ?_)
    rw [bound]
    exact if_neg (by simp [plain])
  | .callable bound procedure =>
    refine .step (.always fun _ => (Eval.run_reference ..).trans ?_)
    rw [bound]
    exact if_pos procedure
  | .unbound missing =>
    refine .step (.always fun _ => (Eval.run_reference ..).trans ?_)
    rw [missing]
    rfl
  | @Evaluates.quoteShape _ _ parts shape =>
    refine .step (.always fun _ => ?_)
    match parts with
    | [] | _ :: _ :: _ => rfl
  | .ifTrue shape test holds branch =>
    refine settles_condition shape test.settles (.of_run_eq (fun _ => ?_) branch.settles)
    rw [if_pos holds]
  | .ifFalse test fails branch =>
    refine settles_condition (by simp) test.settles (.of_run_eq (fun _ => ?_) branch.settles)
    rw [if_neg (by simp [fails])]
  | .ifNil test fails =>
    refine settles_condition (by simp) test.settles (.always fun _ => ?_)
    rw [if_neg (by simp [fails])]
    rfl
  | .ifError shape test => exact settles_condition_error shape test.settles
  | @Evaluates.ifShape _ _ parts shape =>
    refine .step (.always fun _ => ?_)
    match parts with
    | [] | [_] | _ :: _ :: _ :: _ :: _ => rfl
  | .defun => exact .step (.always fun _ => Eval.run_define ..)
  | @Evaluates.defunShape _ _ parts shape =>
    refine .step (.always fun _ => ?_)
    match parts with
    | [] => rfl
    | [v] => cases v <;> rfl
  | @Evaluates.defunName _ _ name _ _ malformed =>
    refine .step (.always fun _ => ?_)
    cases name with
    | symbol s => contradiction
    | _ => rfl
  | @Evaluates.defunParams _ scope s params body malformed =>
    have none : Eval.params? params = none :=
      Option.eq_none_iff_forall_ne_some.mpr fun symbols known =>
        malformed symbols (Eval.params?_eq_some_iff.mp known)
    refine .step (.always fun _ => ?_)
    change (Eval.define scope (.symbol s :: params :: body)).run store = _
    rw [Eval.define, none]
    rfl
  | .headError resolved => exact settles_call resolved.call resolved.settles.bind_error
  | .notAFunction resolved plain =>
    refine settles_call resolved.call (resolved.settles.bind (.always fun _ => ?_))
    rw [if_neg (by simp [plain])]
    rfl
  | .argsError resolved applicable args =>
    exact settles_call resolved.call (settles_args resolved.settles applicable
      args.settles.bind_error)
  | .call resolved applicable args applied =>
    exact settles_call resolved.call (settles_args resolved.settles applicable
      (args.settles.bind applied.settles))

theorem Resolves.settles {store after : Store} {scope : Scope} {head : Value}
    {lines : List String} {outcome : Outcome Value}
    (derived : Resolves store scope head lines outcome after) :
    Settles (fun budget => Eval.evalHead (eval budget) scope head) store outcome after := by
  match derived with
  | .bound _ bound =>
    refine .always fun _ => (Eval.run_evalHead_symbol ..).trans ?_
    rw [bound]
    rfl
  | .undefined _ missing =>
    refine .always fun _ => (Eval.run_evalHead_symbol ..).trans ?_
    rw [missing]
    rfl
  | .computed computed evaluated =>
    exact .of_run_eq (fun _ => by rw [Eval.evalHead_computed computed]) evaluated.settles

theorem EvaluatesArgs.settles {store after : Store} {scope : Scope} {args : List Value}
    {lines : List String} {outcome : Outcome (List Value)}
    (derived : EvaluatesArgs store scope args lines outcome after) :
    Settles (fun budget => Eval.evalArgs (eval budget) scope args) store outcome after := by
  match derived with
  | .nil => exact .always fun _ => rfl
  | .cons first rest => exact first.settles.bind (rest.settles.bind (.always fun _ => rfl))
  | .firstError first => exact first.settles.bind_error
  | .restError first rest => exact first.settles.bind rest.settles.bind_error

theorem EvaluatesBody.settles {store after : Store} {scope : Scope} {last : Value}
    {body : List Value} {lines : List String} {outcome : Outcome Value}
    (derived : EvaluatesBody store scope last body lines outcome after) :
    Settles (fun budget => Eval.evalBody (eval budget) scope last body) store outcome after := by
  match derived with
  | .nil => exact .always fun _ => rfl
  | .cons first rest => exact first.settles.bind rest.settles
  | .error first => exact first.settles.bind_error

theorem Applies.settles {store after : Store} {procedure : Value} {args : List Value}
    {lines : List String} {outcome : Outcome Value}
    (derived : Applies store procedure args lines outcome after) :
    Settles (fun budget => Eval.apply budget (eval budget) procedure args) store outcome after := by
  match derived with
  | .primitive called =>
    refine settles_primitive ((Eval.run_callPrimitive ..).trans ?_)
    rw [called]
    rfl
  | .primitiveError called =>
    refine settles_primitive ((Eval.run_callPrimitive ..).trans ?_)
    rw [called]
    rfl
  | .function ran => exact .of_run_eq (fun _ => Eval.run_callFunction ..) ran.settles

end

namespace Eval

def Explained (eval : Evaluator) : Prop :=
  ∀ {scope : Scope} {expr : Value} {store after : Store} {outcome : Outcome Value},
    (eval scope expr).run store = ended outcome after →
      ∃ lines, Evaluates store scope expr lines outcome after

variable {scope : Scope} {store after : Store} {outcome : Outcome Value}

theorem reference_explained {s : Symbol}
    (ran : (reference scope s).run store = ended outcome after) :
    ∃ lines, Evaluates store scope (.symbol s) lines outcome after := by
  rw [run_reference] at ran
  cases bound : (store.environment scope).get? s with
  | none =>
    rw [bound] at ran
    obtain ⟨rfl, rfl⟩ := error_eq_ended.mp ran
    exact ⟨[], .unbound bound⟩
  | some v =>
    simp only [bound] at ran
    split at ran
    · next procedure =>
      obtain ⟨rfl, rfl⟩ := error_eq_ended.mp ran
      exact ⟨[], .callable bound procedure⟩
    · next plain =>
      obtain ⟨rfl, rfl⟩ := ok_eq_ended.mp ran
      exact ⟨[], .symbol bound (Bool.eq_false_iff.mpr plain)⟩

theorem quote_explained {eval : Evaluator} {parts : List Value}
    (ran : (special eval scope parts .quote).run store = ended outcome after) :
    ∃ lines, Evaluates store scope (.list (.symbol ⟨"quote"⟩ :: parts)) lines outcome after := by
  match parts with
  | [datum] =>
    obtain ⟨rfl, rfl⟩ := ok_eq_ended.mp ran
    exact ⟨[], .quote⟩
  | [] | _ :: _ :: _ =>
    obtain ⟨rfl, rfl⟩ := error_eq_ended.mp ran
    exact ⟨[], .quoteShape (by simp)⟩

theorem define_explained {parts : List Value}
    (ran : (define scope parts).run store = ended outcome after) :
    ∃ lines, Evaluates store scope (.list (.symbol ⟨"defun"⟩ :: parts)) lines outcome after := by
  unfold define at ran
  split at ran
  · next s list body =>
    split at ran
    · next params known =>
      obtain ⟨rfl, rfl⟩ := ok_eq_ended.mp ran
      rw [params?_eq_some_iff.mp known]
      exact ⟨[], .defun⟩
    · next unknown =>
      obtain ⟨rfl, rfl⟩ := error_eq_ended.mp ran
      refine ⟨[], .defunParams fun symbols same => ?_⟩
      rw [params?_eq_some_iff.mpr same] at unknown
      contradiction
  · next name params body other =>
    obtain ⟨rfl, rfl⟩ := error_eq_ended.mp ran
    refine ⟨[], .defunName ?_⟩
    cases name with
    | symbol s => exact absurd rfl (other s)
    | _ => rfl
  · next short named =>
    obtain ⟨rfl, rfl⟩ := error_eq_ended.mp ran
    refine ⟨[], .defunShape ?_⟩
    rcases parts with _ | ⟨name, _ | ⟨params, body⟩⟩
    · simp
    · simp
    · exact absurd rfl (named name params body)

theorem callPrimitive_explained {p : Primitive} {args : List Value}
    (ran : (callPrimitive p args).run store = ended outcome after) :
    ∃ lines, Applies store (.primitive p) args lines outcome after := by
  rw [run_callPrimitive] at ran
  cases called : p.call store.nextMark args with
  | ok v =>
    rw [called] at ran
    obtain ⟨rfl, rfl⟩ := ok_eq_ended.mp ran
    exact ⟨_, .primitive called⟩
  | error e =>
    rw [called] at ran
    obtain ⟨rfl, rfl⟩ := error_eq_ended.mp ran
    exact ⟨[], .primitiveError called⟩

section Rules

variable {eval : Evaluator} (explained : Explained eval)

include explained

theorem test_explained {condition yes : Value} {rest : List Value} {other : Run Value}
    (shape : rest.length ≤ 1)
    (ran : (eval scope condition >>= fun v =>
      if v.isTrue then eval scope yes else other).run store = ended outcome after)
    (otherwise : ∀ {v : Value} {middle : Store} {lines : List String},
      Evaluates store scope condition lines (.ok v) middle → v.isTrue = false →
      other.run middle = ended outcome after →
      ∃ lines, Evaluates store scope (.list (.symbol ⟨"if"⟩ :: condition :: yes :: rest)) lines
        outcome after) :
    ∃ lines, Evaluates store scope (.list (.symbol ⟨"if"⟩ :: condition :: yes :: rest)) lines
      outcome after := by
  obtain ⟨e, rfl, test⟩ | ⟨v, middle, test, branch⟩ := run_bind_ended ran
  · obtain ⟨lines, test⟩ := explained test
    exact ⟨lines, .ifError shape test⟩
  · obtain ⟨lines, test⟩ := explained test
    split at branch
    · next holds =>
      obtain ⟨more, branch⟩ := explained branch
      exact ⟨_, .ifTrue shape test holds branch⟩
    · next fails => exact otherwise test (Bool.eq_false_iff.mpr fails) branch

theorem conditional_explained {parts : List Value}
    (ran : (special eval scope parts .conditional).run store = ended outcome after) :
    ∃ lines, Evaluates store scope (.list (.symbol ⟨"if"⟩ :: parts)) lines outcome after := by
  match parts with
  | [condition, yes] =>
    refine test_explained explained (by simp) ran fun test fails branch => ?_
    obtain ⟨rfl, rfl⟩ := ok_eq_ended.mp branch
    exact ⟨_, .ifNil test fails⟩
  | [condition, yes, no] =>
    refine test_explained explained (by simp) ran fun test fails branch => ?_
    obtain ⟨more, branch⟩ := explained branch
    exact ⟨_, .ifFalse test fails branch⟩
  | [] | [_] | _ :: _ :: _ :: _ :: _ =>
    obtain ⟨rfl, rfl⟩ := error_eq_ended.mp ran
    exact ⟨[], .ifShape (by simp)⟩

theorem evalArgs_explained {args : List Value} {outcome : Outcome (List Value)}
    (ran : (evalArgs eval scope args).run store = ended outcome after) :
    ∃ lines, EvaluatesArgs store scope args lines outcome after := by
  induction args generalizing store outcome with
  | nil =>
    obtain ⟨rfl, rfl⟩ := ok_eq_ended.mp ran
    exact ⟨[], .nil⟩
  | cons arg rest ih =>
    obtain ⟨e, rfl, first⟩ | ⟨v, middle, first, ran⟩ := run_bind_ended ran
    · obtain ⟨lines, first⟩ := explained first
      exact ⟨lines, .firstError first⟩
    · obtain ⟨lines, first⟩ := explained first
      obtain ⟨e, rfl, later⟩ | ⟨vs, last, later, ran⟩ := run_bind_ended ran
      · obtain ⟨more, later⟩ := ih later
        exact ⟨_, .restError first later⟩
      · obtain ⟨rfl, rfl⟩ := ok_eq_ended.mp ran
        obtain ⟨more, later⟩ := ih later
        exact ⟨_, .cons first later⟩

theorem evalBody_explained {last : Value} {body : List Value}
    (ran : (evalBody eval scope last body).run store = ended outcome after) :
    ∃ lines, EvaluatesBody store scope last body lines outcome after := by
  induction body generalizing store last with
  | nil =>
    obtain ⟨rfl, rfl⟩ := ok_eq_ended.mp ran
    exact ⟨[], .nil⟩
  | cons form rest ih =>
    obtain ⟨e, rfl, first⟩ | ⟨v, middle, first, later⟩ := run_bind_ended ran
    · obtain ⟨lines, first⟩ := explained first
      exact ⟨lines, .error first⟩
    · obtain ⟨lines, first⟩ := explained first
      obtain ⟨more, later⟩ := ih later
      exact ⟨_, .cons first later⟩

theorem apply_explained {room : Nat} {procedure : Value} {args : List Value}
    (applicable : procedure.isProcedure = true)
    (ran : (apply room eval procedure args).run store = ended outcome after) :
    ∃ lines, Applies store procedure args lines outcome after := by
  match procedure with
  | .primitive p =>
    rw [run_apply_primitive] at ran
    split at ran
    · exact callPrimitive_explained ran
    · exact (tooDeep_ne_ended ran).elim
  | .function tag name params body home =>
    obtain ⟨lines, ran⟩ := evalBody_explained explained ran
    exact ⟨lines, .function ran⟩

theorem evalHead_explained {head : Value} (call : specialForm? head = none)
    (ran : (evalHead eval scope head).run store = ended outcome after) :
    ∃ lines, Resolves store scope head lines outcome after := by
  cases computed : head.isSymbol with
  | false =>
    rw [evalHead_computed computed] at ran
    obtain ⟨lines, ran⟩ := explained ran
    exact ⟨lines, .computed computed ran⟩
  | true =>
    match head with
    | .symbol s =>
      have free := specialForm?_eq_none_iff.mp call
      rw [run_evalHead_symbol] at ran
      cases bound : (store.environment scope).get? s with
      | some v =>
        rw [bound] at ran
        obtain ⟨rfl, rfl⟩ := ok_eq_ended.mp ran
        exact ⟨[], .bound free bound⟩
      | none =>
        rw [bound] at ran
        obtain ⟨rfl, rfl⟩ := error_eq_ended.mp ran
        exact ⟨[], .undefined free bound⟩

theorem evalCall_explained {room : Nat} {head : Value} {parts : List Value}
    (call : specialForm? head = none)
    (ran : (evalCall room eval scope head parts).run store = ended outcome after) :
    ∃ lines, Evaluates store scope (.list (head :: parts)) lines outcome after := by
  obtain ⟨e, rfl, resolved⟩ | ⟨procedure, middle, resolved, ran⟩ := run_bind_ended ran
  · obtain ⟨lines, resolved⟩ := evalHead_explained explained call resolved
    exact ⟨lines, .headError resolved⟩
  · obtain ⟨lines, resolved⟩ := evalHead_explained explained call resolved
    split at ran
    · next applicable =>
      obtain ⟨e, rfl, args⟩ | ⟨vs, before, args, applied⟩ := run_bind_ended ran
      · obtain ⟨more, args⟩ := evalArgs_explained explained args
        exact ⟨_, .argsError resolved applicable args⟩
      · obtain ⟨more, args⟩ := evalArgs_explained explained args
        obtain ⟨last, applied⟩ := apply_explained explained applicable applied
        exact ⟨_, .call resolved applicable args applied⟩
    · next plain =>
      obtain ⟨rfl, rfl⟩ := error_eq_ended.mp ran
      exact ⟨lines, .notAFunction resolved (Bool.eq_false_iff.mpr plain)⟩

theorem form_explained {room : Nat} {head : Value} {parts : List Value}
    (ran : (evalForm room eval scope head parts).run store = ended outcome after) :
    ∃ lines, Evaluates store scope (.list (head :: parts)) lines outcome after := by
  unfold evalForm at ran
  split at ran
  · next form special =>
    match head with
    | .symbol s =>
      obtain ⟨rfl, rfl⟩ | ⟨rfl, rfl⟩ | ⟨rfl, rfl⟩ := SpecialForm.ofSymbol?_eq_some special
      · exact quote_explained ran
      · exact conditional_explained explained ran
      · exact define_explained ran
  · next call => exact evalCall_explained explained call ran

theorem step_explained (room : Nat) : Explained (step room eval) := by
  intro scope expr store after outcome ran
  match expr with
  | .nil =>
    obtain ⟨rfl, rfl⟩ := ok_eq_ended.mp ran
    exact ⟨[], .nil⟩
  | .bool b =>
    obtain ⟨rfl, rfl⟩ := ok_eq_ended.mp ran
    exact ⟨[], .bool⟩
  | .number x =>
    obtain ⟨rfl, rfl⟩ := ok_eq_ended.mp ran
    exact ⟨[], .number⟩
  | .list [] =>
    obtain ⟨rfl, rfl⟩ := ok_eq_ended.mp ran
    exact ⟨[], .empty⟩
  | .text content =>
    obtain ⟨rfl, rfl⟩ := error_eq_ended.mp ran
    exact ⟨[], .text⟩
  | .primitive _ | .function .. =>
    obtain ⟨rfl, rfl⟩ := error_eq_ended.mp ran
    exact ⟨[], .procedure rfl⟩
  | .symbol s => exact reference_explained ran
  | .list (head :: parts) => exact form_explained explained ran

end Rules

end Eval

theorem eval_explained (budget : Nat) : Eval.Explained (eval budget) := by
  induction budget with
  | zero =>
    intro scope expr store after outcome ran
    exact (tooDeep_ne_ended ran).elim
  | succ budget ih => exact Eval.step_explained ih budget

theorem Evaluates.unique {store after last : Store} {scope : Scope} {expr : Value}
    {lines more : List String} {outcome other : Outcome Value}
    (derived : Evaluates store scope expr lines outcome after)
    (again : Evaluates store scope expr more other last) :
    lines = more ∧ outcome = other ∧ after = last := by
  obtain ⟨rfl, rfl⟩ := derived.settles.unique again.settles
  exact ⟨List.append_cancel_left (derived.prints.symm.trans again.prints), rfl, rfl⟩

/-- The evaluator ends exactly as the rules say, with some budget and then with every larger one.
There is one way to end, and what was printed is listed in the order of evaluation. -/
theorem eval_iff_evaluates (store : Store) (scope : Scope) (expr : Value) :
    (∀ outcome after,
      (∃ budget, (eval budget scope expr).run store = ended outcome after) ↔
        ∃ lines, Evaluates store scope expr lines outcome after) ∧
    ∀ lines outcome after, Evaluates store scope expr lines outcome after →
      after.printed.toList = store.printed.toList ++ lines ∧
      (∃ enough, ∀ budget, enough ≤ budget →
        (eval budget scope expr).run store = ended outcome after) ∧
      ∀ more other last, Evaluates store scope expr more other last →
        lines = more ∧ outcome = other ∧ after = last := by
  refine ⟨fun outcome after => ⟨fun ⟨budget, ran⟩ => eval_explained budget ran, ?_⟩, ?_⟩
  · rintro ⟨lines, derived⟩
    obtain ⟨enough, ran⟩ := derived.settles
    exact ⟨enough, ran enough (Nat.le_refl enough)⟩
  · intro lines outcome after derived
    exact ⟨derived.prints, derived.settles, fun _ _ _ again => derived.unique again⟩

-- The head of a call is resolved before its arguments, so the call in this list still prints when
-- its argument gives `print` another meaning. What it printed stays when an error ends the list.
theorem eval_iff_evaluates_redefined :
    let store := Store.ofGlobals .initial 0
    let call := Value.list
      [.symbol ⟨"print"⟩, .list [.symbol ⟨"defun"⟩, .symbol ⟨"print"⟩, .list []]]
    let after := (store.define 0 ⟨"print"⟩ (.function 0 "print" [] [] 0)).record ["PRINT"]
    Evaluates store 0 (.list [.symbol ⟨"list"⟩, call, .symbol ⟨"missing"⟩]) ["PRINT"]
      (.error (.unboundSymbol ⟨"missing"⟩)) after ∧
    ∃ budget, (eval budget 0 (.list [.symbol ⟨"list"⟩, call, .symbol ⟨"missing"⟩])).run store =
      ended (.error (.unboundSymbol ⟨"missing"⟩)) after := by
  intro store call after
  have printer : Resolves store 0 (.symbol ⟨"print"⟩) [] (.ok (.primitive .print)) store :=
    .bound (by simp [Symbol.Reserved]) rfl
  have lister : Resolves store 0 (.symbol ⟨"list"⟩) [] (.ok (.primitive .list)) store :=
    .bound (by simp [Symbol.Reserved]) rfl
  have redefined : EvaluatesArgs store 0
      [.list [.symbol ⟨"defun"⟩, .symbol ⟨"print"⟩, .list ([].map .symbol)]] ([] ++ [])
      (.ok [.symbol ⟨"print"⟩]) _ := .cons .defun .nil
  have printed : Evaluates store 0 call ([] ++ ([] ++ []) ++ ["PRINT"]) (.ok .nil) after :=
    .call printer rfl redefined (.primitive rfl)
  have missing : EvaluatesArgs after 0 [.symbol ⟨"missing"⟩] []
      (.error (.unboundSymbol ⟨"missing"⟩)) after := .firstError (.unbound rfl)
  have derived := Evaluates.argsError lister rfl (.restError printed missing)
  exact ⟨derived, ((eval_iff_evaluates store 0 _).1 _ after).mpr ⟨_, derived⟩⟩

end PocketLisp
