import Mathlib.Data.List.DropRight
import PocketLisp.Client
import PocketLisp.Proofs.LineBuffer

set_option autoImplicit false

namespace PocketLisp

namespace Text

variable {α : Type} {p : α → Bool} {items kept : List α}

structure Trims (p : α → Bool) (items kept : List α) : Prop where
  around : ∃ left right, items = left ++ (kept ++ right) ∧ (∀ x ∈ left, p x = true) ∧
    ∀ x ∈ right, p x = true
  first : ∀ x ∈ kept.head?, p x = false
  last : ∀ x ∈ kept.getLast?, p x = false

theorem dropWhile_head? : ∀ x ∈ (items.dropWhile p).head?, p x = false := by
  intro x head
  have first := List.head?_dropWhile_not p items
  rwa [Option.mem_def.mp head] at first

theorem dropWhile_append_exact {left : List α} (all : ∀ x ∈ left, p x = true)
    (first : ∀ x ∈ items.head?, p x = false) : (left ++ items).dropWhile p = items := by
  rw [List.dropWhile_append_of_pos all]
  cases items with
  | nil => rfl
  | cons x rest => exact List.dropWhile_cons_of_neg (by simp [first x rfl])

theorem trimBoth_trims (p : α → Bool) (items : List α) : Trims p items (trimBoth p items) where
  around := by
    refine ⟨items.takeWhile p, (items.dropWhile p).rtakeWhile p, ?_, ?_, ?_⟩
    · change _ = _ ++ ((items.dropWhile p).rdropWhile p ++ _)
      rw [List.rdropWhile_append_rtakeWhile, List.takeWhile_append_dropWhile]
    · exact fun x => List.mem_takeWhile_imp
    · exact fun x => List.mem_rtakeWhile_imp
  first := by
    intro x head
    -- What goes at the end leaves the first item where it was.
    obtain ⟨right, joined⟩ := List.rdropWhile_prefix p (items.dropWhile p)
    have same : x ∈ (items.dropWhile p).head? := by
      rw [← joined]
      exact List.mem_head?_append_of_mem_head? head
    exact dropWhile_head? x same
  last := by
    intro x last
    rw [trimBoth, List.getLast?_reverse] at last
    exact dropWhile_head? x last

theorem Trims.eq_trimBoth (trims : Trims p items kept) : trimBoth p items = kept := by
  obtain ⟨⟨left, right, rfl, before, behind⟩, first, last⟩ := trims
  cases kept with
  | nil =>
    have all : ∀ x ∈ left ++ right, p x = true := by
      intro x member
      exact (List.mem_append.mp member).elim (before x) (behind x)
    have none : (left ++ right).dropWhile p = [] := List.dropWhile_eq_nil_iff.mpr all
    simp [trimBoth, none]
  | cons x rest =>
    have backwards : ∀ y ∈ right.reverse, p y = true := by simpa using behind
    have ending : ∀ y ∈ (x :: rest).reverse.head?, p y = false := by
      rw [List.head?_reverse]
      exact last
    rw [trimBoth, dropWhile_append_exact before (by simpa using first), List.reverse_append,
      dropWhile_append_exact backwards ending, List.reverse_reverse]

end Text

namespace Client

def chunks : List Received → List (List UInt8)
  | .chunk (b :: bytes) :: rest => (b :: bytes) :: chunks rest
  | _ => []

def stream (script : List Received) : List UInt8 :=
  (chunks script).flatten

def Asks (bytes request : List UInt8) : Prop :=
  Text.Trims (fun b => Text.isAsciiBlank b.toNat) bytes request

/-- The replies to lines, the server after them, and the crash at which it stopped, if it did. -/
inductive Answers : Server → List Line → List Reply → Server → Option Crash → Prop
  | done (server : Server) : Answers server [] [] server none
  | overlong {server final : Server} {lines : List Line} {replies : List Reply}
      {crash : Option Crash} (later : Answers server lines replies final crash) :
      Answers server (.overlong :: lines) (.failed "Invalid request: line too long" :: replies)
        final crash
  | blank {server final : Server} {bytes : List UInt8} {lines : List Line} {replies : List Reply}
      {crash : Option Crash} (asks : Asks bytes [])
      (later : Answers server lines replies final crash) :
      Answers server (.whole bytes :: lines) replies final crash
  | reply {server next final : Server} {bytes request : List UInt8} {lines : List Line}
      {reply : Reply} {replies : List Reply} {crash : Option Crash} (asks : Asks bytes request)
      (written : request ≠ []) (handled : server.handleLine request = (.ok reply, next))
      (later : Answers next lines replies final crash) :
      Answers server (.whole bytes :: lines) (reply :: replies) final crash
  | crash {server next : Server} {bytes request : List UInt8} {lines : List Line} {crash : Crash}
      (asks : Asks bytes request) (written : request ≠ [])
      (handled : server.handleLine request = (.error crash, next)) :
      Answers server (.whole bytes :: lines) [] next (some crash)

theorem Asks.unique {bytes request other : List UInt8} (one : Asks bytes request)
    (two : Asks bytes other) : request = other :=
  one.eq_trimBoth.symm.trans two.eq_trimBoth

theorem Answers.unique {server : Server} {lines : List Line} {replies others : List Reply}
    {final last : Server} {crash fault : Option Crash}
    (one : Answers server lines replies final crash)
    (two : Answers server lines others last fault) :
    replies = others ∧ final = last ∧ crash = fault := by
  induction one generalizing others with
  | done => cases two with | done => exact ⟨rfl, rfl, rfl⟩
  | overlong _ ih =>
    cases two with
    | overlong later =>
      obtain ⟨rfl, same⟩ := ih later
      exact ⟨rfl, same⟩
  | blank asks _ ih =>
    cases two with
    | blank _ later => exact ih later
    | reply other written | crash other written => exact absurd (other.unique asks) written
  | reply asks written handled _ ih =>
    cases two with
    | blank other => exact absurd (asks.unique other) written
    | reply other _ again later =>
      obtain rfl := asks.unique other
      obtain ⟨⟨⟩, rfl⟩ := Prod.mk.inj (handled.symm.trans again)
      obtain ⟨rfl, same⟩ := ih later
      exact ⟨rfl, same⟩
    | crash other _ again =>
      obtain rfl := asks.unique other
      exact nomatch (Prod.mk.inj (handled.symm.trans again)).1
  | crash asks written handled =>
    cases two with
    | blank other => exact absurd (asks.unique other) written
    | reply other _ again later =>
      obtain rfl := asks.unique other
      exact nomatch (Prod.mk.inj (handled.symm.trans again)).1
    | crash other _ again =>
      obtain rfl := asks.unique other
      obtain ⟨⟨⟩, rfl⟩ := Prod.mk.inj (handled.symm.trans again)
      exact ⟨rfl, rfl, rfl⟩

section Lines

variable (state : State) {bytes request : List UInt8}

theorem answerLine_blank (asks : Asks bytes []) : answerLine state (.whole bytes) = state := by
  have none : Text.trimBoth (fun b => Text.isAsciiBlank b.toNat) bytes = [] := asks.eq_trimBoth
  simp [answerLine, none]

theorem answerLine_reply (asks : Asks bytes request) (written : request ≠ []) {reply : Reply}
    {next : Server} (handled : state.server.handleLine request = (.ok reply, next)) :
    answerLine state (.whole bytes) = ⟨next, state.exchange.send reply⟩ := by
  have line : Text.trimBoth (fun b => Text.isAsciiBlank b.toNat) bytes = request :=
    asks.eq_trimBoth
  simp [answerLine, line, written, handled]

theorem answerLine_crash (asks : Asks bytes request) (written : request ≠ []) {crash : Crash}
    {next : Server} (handled : state.server.handleLine request = (.error crash, next)) :
    answerLine state (.whole bytes) = ⟨next, state.exchange.crashed crash⟩ := by
  have line : Text.trimBoth (fun b => Text.isAsciiBlank b.toNat) bytes = request :=
    asks.eq_trimBoth
  simp [answerLine, line, written, handled]

variable {state}

theorem answerLines_next {line : Line} (fine : (answerLine state line).exchange.crash = none)
    (rest : List Line) :
    answerLines state (line :: rest) = answerLines (answerLine state line) rest := by
  simp [answerLines, fine]

theorem answerLines_stop {line : Line} {crash : Crash}
    (stopped : (answerLine state line).exchange.crash = some crash) (rest : List Line) :
    answerLines state (line :: rest) = answerLine state line := by
  simp [answerLines, stopped]

theorem answerLines_append (fine : state.exchange.crash = none) (lines more : List Line) :
    answerLines state (lines ++ more) =
      if (answerLines state lines).exchange.crash.isSome then answerLines state lines
      else answerLines (answerLines state lines) more := by
  induction lines generalizing state with
  | nil => simp [answerLines, fine]
  | cons line rest ih =>
    cases stopped : (answerLine state line).exchange.crash with
    | none => rw [List.cons_append, answerLines_next stopped, answerLines_next stopped, ih stopped]
    | some crash =>
      rw [List.cons_append, answerLines_stop stopped, answerLines_stop stopped, if_pos]
      simp [stopped]

structure Proceeds (state final : State) (replies : List Reply) : Prop where
  sent : final.exchange.sent = state.exchange.sent ++ replies.map Reply.toLine
  closed : final.exchange.crash.isSome = true → final.exchange.closed = true

theorem Proceeds.reply {final : State} {replies : List Reply} {server : Server} {reply : Reply}
    {log : List Event}
    (later : Proceeds ⟨server, { state.exchange.send reply with log }⟩ final replies) :
    Proceeds state final (reply :: replies) where
  sent := by simp [later.sent, Exchange.send]
  closed := later.closed

theorem answerLines_answers (fine : state.exchange.crash = none) (lines : List Line) :
    ∃ replies,
      Answers state.server lines replies (answerLines state lines).server
        (answerLines state lines).exchange.crash ∧
      Proceeds state (answerLines state lines) replies := by
  induction lines generalizing state with
  | nil =>
    rw [answerLines, fine]
    exact ⟨[], .done _, by simp, by simp [fine]⟩
  | cons line rest ih =>
    cases line with
    | overlong =>
      have still : (answerLine state .overlong).exchange.crash = none := fine
      obtain ⟨replies, answers, proceeds⟩ := ih still
      rw [answerLines_next still]
      exact ⟨_, .overlong answers, proceeds.reply⟩
    | whole bytes =>
      obtain ⟨request, asks⟩ : ∃ request, Asks bytes request := ⟨_, Text.trimBoth_trims _ bytes⟩
      by_cases written : request = []
      · subst written
        have same := answerLine_blank state asks
        obtain ⟨replies, answers, proceeds⟩ := ih fine
        rw [answerLines_next (by rw [same]; exact fine), same]
        exact ⟨replies, .blank asks answers, proceeds⟩
      · rcases handled : state.server.handleLine request with ⟨crash | reply, next⟩
        · have stopped := answerLine_crash state asks written handled
          have crashed : (answerLine state (.whole bytes)).exchange.crash = some crash := by
            rw [stopped]
            rfl
          rw [answerLines_stop crashed, stopped]
          exact ⟨[], .crash asks written handled, by simp [Exchange.crashed], fun _ => rfl⟩
        · have answered := answerLine_reply state asks written handled
          have still : (answerLine state (.whole bytes)).exchange.crash = none := by
            rw [answered]
            exact fine
          obtain ⟨replies, answers, proceeds⟩ := ih still
          rw [answerLines_next still]
          rw [answered] at answers proceeds ⊢
          exact ⟨_, .reply asks written handled answers, proceeds.reply⟩

end Lines

structure Concludes (done final : State) : Prop where
  server : final.server = done.server
  sent : final.exchange.sent = done.exchange.sent
  crash : final.exchange.crash = done.exchange.crash
  closed : final.exchange.closed = true

theorem serveFrom_concludes {state : State} (fine : state.exchange.crash = none)
    (buffer : LineBuffer) (script : List Received) :
    Concludes (answerLines state (buffer.feeds (chunks script)).flatten)
      (serveFrom state buffer script) := by
  induction script generalizing state buffer with
  | nil => exact ⟨rfl, rfl, rfl, rfl⟩
  | cons received rest ih =>
    rcases received with ⟨_ | ⟨b, bytes⟩⟩ | _
    · exact ⟨rfl, rfl, rfl, rfl⟩
    · rw [chunks, LineBuffer.feeds, List.flatten_cons, answerLines_append fine]
      simp only [serveFrom, List.isEmpty_cons, Bool.false_eq_true, if_false]
      cases stopped : (answerLines state (buffer.feed (b :: bytes)).1).exchange.crash with
      | none => simpa [stopped] using ih stopped (buffer.feed (b :: bytes)).2
      | some crash =>
        obtain ⟨replies, -, proceeds⟩ := answerLines_answers fine (buffer.feed (b :: bytes)).1
        simp only [Option.isSome_some, if_true]
        exact ⟨rfl, rfl, rfl, proceeds.closed (by simp [stopped])⟩
    · exact ⟨rfl, rfl, rfl, rfl⟩

theorem serve_sends (server : Server) (script : List Received) :
    (serve server script).exchange.closed = true ∧
    ∃ replies,
      Answers server ((LineBuffer.empty server.maxLineBytes).feeds (chunks script)).flatten replies
        (serve server script).server (serve server script).exchange.crash ∧
      (serve server script).exchange.sent = replies.map Reply.toLine := by
  have fine : (State.mk server .opened).exchange.crash = none := rfl
  have ends := serveFrom_concludes fine (.empty server.maxLineBytes) script
  obtain ⟨replies, answers, proceeds⟩ :=
    answerLines_answers fine ((LineBuffer.empty server.maxLineBytes).feeds (chunks script)).flatten
  refine ⟨ends.closed, replies, ?_, ?_⟩
  · rw [serve, ends.server, ends.crash]
    exact answers
  · rw [serve, ends.sent, proceeds.sent]
    rfl

theorem serve_concludes {server : Server} (nonneg : 0 ≤ server.maxLineBytes)
    (script : List Received) :
    (serve server script).exchange.closed = true ∧
    ∃ lines tail replies, LineBuffer.Splits (stream script) lines tail ∧
      Answers server (LineBuffer.expected server.maxLineBytes lines tail) replies
        (serve server script).server (serve server script).exchange.crash ∧
      (serve server script).exchange.sent = replies.map Reply.toLine := by
  obtain ⟨lines, tail, splits, reported⟩ := LineBuffer.feeds_flatten nonneg (chunks script)
  obtain ⟨closed, replies, answers, sent⟩ := serve_sends server script
  rw [reported] at answers
  exact ⟨closed, lines, tail, replies, splits, answers, sent⟩

/-- Every line of the stream that is too long or not blank gets one reply, in order and with the
state of the server threaded through, up to the first at which the server crashes; what follows the
last newline counts only if it is too long. So nothing depends on how the stream was cut, and the
connection is closed at the end. -/
theorem serve_answers (server : Server) (nonneg : 0 ≤ server.maxLineBytes)
    (script : List Received) :
    let state := serve server script
    (∃ lines tail replies, LineBuffer.Splits (stream script) lines tail ∧
      Answers server (LineBuffer.expected server.maxLineBytes lines tail) replies state.server
        state.exchange.crash ∧
      state.exchange.sent = replies.map Reply.toLine) ∧
    state.exchange.closed = true ∧
    ∀ other, stream other = stream script →
      (serve server other).exchange.sent = state.exchange.sent ∧
      (serve server other).server = state.server ∧
      (serve server other).exchange.crash = state.exchange.crash := by
  intro state
  obtain ⟨closed, lines, tail, replies, splits, answers, sent⟩ := serve_concludes nonneg script
  refine ⟨⟨lines, tail, replies, splits, answers, sent⟩, closed, ?_⟩
  intro other same
  obtain ⟨-, lines', tail', replies', splits', answers', sent'⟩ := serve_concludes nonneg other
  -- A stream splits in one way only, and the replies to its lines are determined by them.
  rw [same] at splits'
  obtain ⟨rfl, rfl⟩ := Prod.mk.inj (splits'.cut_eq.symm.trans splits.cut_eq)
  obtain ⟨rfl, left, ended⟩ := answers'.unique answers
  exact ⟨sent'.trans sent.symm, left, ended⟩

-- With limit 4 the stream `12 ⏎⏎abcdef` has a request, a blank line and an overlong tail. It
-- comes in three chunks before reading fails, or in one.
theorem serve_answers_cut :
    let server := Server.initial 4 100
    let script :=
      [.chunk [49, 50], .chunk [32, 10, 10, 97, 98, 99], .chunk [100, 101, 102], .failure]
    let other := [.chunk [49, 50, 32, 10, 10, 97, 98, 99, 100, 101, 102], .chunk [], .chunk [10]]
    let state := serve server script
    0 ≤ server.maxLineBytes ∧
    (∃ lines tail replies, LineBuffer.Splits (stream script) lines tail ∧
      Answers server (LineBuffer.expected server.maxLineBytes lines tail) replies state.server
        state.exchange.crash ∧
      state.exchange.sent = replies.map Reply.toLine) ∧
    state.exchange.closed = true ∧
    stream other = stream script ∧
      (serve server other).exchange.sent = state.exchange.sent ∧
      (serve server other).server = state.server ∧
      (serve server other).exchange.crash = state.exchange.crash := by
  intro server script other state
  have nonneg : 0 ≤ server.maxLineBytes := by decide
  have same : stream other = stream script := by rfl
  obtain ⟨answers, closed, only⟩ := serve_answers server nonneg script
  exact ⟨nonneg, answers, closed, same, only other same⟩

end Client

end PocketLisp
