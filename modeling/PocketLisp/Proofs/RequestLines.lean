import PocketLisp.Proofs.ClientStream
import PocketLisp.Proofs.JsonLimits

set_option autoImplicit false

namespace PocketLisp

theorem Utf8.decodeFrom_ascii (position : Nat) (read : List Char) {bytes : List UInt8}
    (ascii : ∀ b ∈ bytes, b.toNat < 0x80) :
    decodeFrom position read none bytes =
      .ok (read.reverse ++ bytes.map fun b => Char.ofNat b.toNat) := by
  induction bytes generalizing position read with
  | nil => simp [decodeFrom]
  | cons b bytes ih =>
    have first : b.toNat < 0x80 := ascii b (by simp)
    rw [decodeFrom, if_pos first, ih _ _ fun c member => ascii c (by simp [member])]
    simp

theorem Utf8.decode_ascii {bytes : List UInt8} (ascii : ∀ b ∈ bytes, b.toNat < 0x80) :
    decode bytes = .ok (bytes.map fun b => Char.ofNat b.toNat) :=
  decodeFrom_ascii 0 [] ascii

namespace Json

theorem skipBlanks_dark {position : Nat} {c : Char} (dark : Cursor.isBlank c = false)
    (text : List Char) : Cursor.skipBlanks ⟨position, c :: text⟩ = ⟨position, c :: text⟩ := by
  simp [Cursor.skipBlanks, Cursor.advance, dark]

theorem longInteger_ones {count : Nat} (many : Literal.maxIntegerDigits < count) :
    LongInteger (List.replicate count '1') count := by
  have all : Literal.Digits (List.replicate count '1') := by
    intro c member
    rw [List.eq_of_mem_replicate member]
    decide
  have whole : ¬ Continues [] := nofun
  have long : LongInteger ([] ++ (List.replicate count '1' ++ []))
      (List.replicate count '1').length :=
    .digits (.inl rfl) all (by simp [List.head?_replicate]) (by simpa using many) (by simp) whole
  simpa using long

theorem exceeds_ones (depth : Nat) {count : Nat} (many : Literal.maxIntegerDigits < count) :
    Exceeds depth (List.replicate count '1') (.longInteger count) := by
  have long := longInteger_ones many
  obtain ⟨count, rfl⟩ := Nat.exists_eq_add_of_lt (Nat.zero_lt_of_lt many)
  rw [Nat.zero_add, List.replicate_succ] at long ⊢
  refine ⟨by simp, depth, _, .here _ _, ?_⟩
  rw [skipBlanks_dark (by decide)]
  exact .long long

theorem skipBlanks_bracket (position : Nat) (text : List Char) :
    (Cursor.advance ⟨position, '[' :: '[' :: text⟩ 1).skipBlanks = ⟨position + 1, '[' :: text⟩ :=
  skipBlanks_dark (by decide) text

theorem reaches_brackets (depth position count : Nat) (rest : List Char) :
    ∃ place, Reaches depth ⟨position, List.replicate (depth + (count + 1)) '[' ++ rest⟩ 0 place ∧
      place.rest = List.replicate (count + 1) '[' ++ rest := by
  induction depth generalizing position with
  | zero => exact ⟨_, .here 0 _, by simp⟩
  | succ depth ih =>
    obtain ⟨place, inside, same⟩ := ih (position + 1)
    have inner : List.replicate (depth + (count + 1)) '[' ++ rest =
        '[' :: (List.replicate (depth + count) '[' ++ rest) := by
      rw [← Nat.add_assoc, List.replicate_succ, List.cons_append]
    rw [inner] at inside
    rw [Nat.succ_add, List.replicate_succ, List.cons_append, inner]
    refine ⟨place, .item rfl ?_ (.first _) ?_, same⟩
    · simp [skipBlanks_bracket]
    · rw [skipBlanks_bracket]
      exact inside

theorem exceeds_brackets {depth count : Nat} (many : depth < count) (rest : List Char) :
    Exceeds depth (List.replicate count '[' ++ rest) .tooDeep := by
  obtain ⟨more, rfl⟩ := Nat.exists_eq_add_of_lt many
  obtain ⟨place, reaches, same⟩ := reaches_brackets depth 0 more rest
  rw [Nat.add_assoc]
  refine ⟨?_, 0, place, ?_, ?_⟩
  · simp [← Nat.add_assoc, List.replicate_succ]
  · rw [← Nat.add_assoc, List.replicate_succ, List.cons_append, skipBlanks_dark (by decide),
      ← List.cons_append, ← List.replicate_succ]
    exact reaches
  · rw [same, List.replicate_succ]
    exact .deep (.inl rfl)

end Json

def Crash.limit : Crash → Json.Fault
  | .longInteger digits => .longInteger digits
  | .tooDeep => .tooDeep

theorem Crash.limit_isLimit (crash : Crash) : crash.limit.IsLimit := by
  cases crash <;> trivial

namespace Server

def Overloads (server : Server) (line : List UInt8) (crash : Crash) : Prop :=
  ∃ text, Utf8.decode line = .ok text ∧ Json.Exceeds server.depth text crash.limit

theorem handleLine_of_overloads {server : Server} {line : List UInt8} {crash : Crash}
    (overloads : server.Overloads line crash) :
    server.handleLine line = (.error crash, server) := by
  obtain ⟨text, decoded, exceeds⟩ := overloads
  have read := (Json.read_eq_error_iff crash.limit_isLimit).mpr exceeds
  cases crash <;> simp [handleLine, decoded, read, Crash.limit]

theorem replies_or_overloads (server : Server) (line : List UInt8) :
    (∃ reply, (server.handleLine line).1 = .ok reply) ∨ ∃ crash, server.Overloads line crash := by
  unfold handleLine
  split
  · exact .inl ⟨_, rfl⟩
  · next text decoded =>
    split
    · exact .inl ⟨_, rfl⟩
    · exact .inl ⟨_, rfl⟩
    · next digits read =>
      refine .inr ⟨.longInteger digits, text, decoded, ?_⟩
      exact (Json.read_eq_error_iff (Crash.limit_isLimit _)).mp read
    · next read =>
      refine .inr ⟨.tooDeep, text, decoded, ?_⟩
      exact (Json.read_eq_error_iff (Crash.limit_isLimit _)).mp read

theorem unanswered {server : Server} {line : List UInt8} {crash : Crash}
    (overloads : server.Overloads line crash) :
    ¬ ∃ reply, (server.handleLine line).1 = .ok reply := by
  rintro ⟨reply, replied⟩
  rw [handleLine_of_overloads overloads] at replied
  cases replied

theorem overloads_ones (server : Server) {count : Nat} (many : Literal.maxIntegerDigits < count) :
    server.Overloads (List.replicate count 49) (.longInteger count) := by
  refine ⟨List.replicate count '1', ?_, Json.exceeds_ones server.depth many⟩
  rw [Utf8.decode_ascii, List.map_replicate]
  · rfl
  · intro b member
    rw [List.eq_of_mem_replicate member]
    decide

theorem overloads_brackets {server : Server} {count : Nat} (many : server.depth < count) :
    server.Overloads (List.replicate count 91 ++ List.replicate count 93) .tooDeep := by
  refine ⟨List.replicate count '[' ++ List.replicate count ']', ?_, Json.exceeds_brackets many _⟩
  rw [Utf8.decode_ascii, List.map_append, List.map_replicate, List.map_replicate]
  · rfl
  · intro b member
    rcases List.mem_append.mp member with opening | closing
    · rw [List.eq_of_mem_replicate opening]
      decide
    · rw [List.eq_of_mem_replicate closing]
      decide

/-- A line gets a reply unless the JSON reader comes to an integer of too many digits or to an array
or object too deep in others. At such a line the server crashes, unchanged, and the connection to
the client that sent it is closed; any other line leaves the connection open. -/
theorem handleLine_replies_iff (server : Server) (line : List UInt8) :
    ((∃ reply, (server.handleLine line).1 = .ok reply) ↔ ∀ crash, ¬ server.Overloads line crash) ∧
    (∀ crash, server.Overloads line crash → server.handleLine line = (.error crash, server)) ∧
    ∀ exchange bytes, Client.Asks bytes line → line ≠ [] → exchange.crash = none →
      ((Client.answerLine ⟨server, exchange⟩ (.whole bytes)).exchange.crash = none ↔
        ∀ crash, ¬ server.Overloads line crash) := by
  have replies : (∃ reply, (server.handleLine line).1 = .ok reply) ↔
      ∀ crash, ¬ server.Overloads line crash := by
    constructor
    · exact fun replied crash overloads => unanswered overloads replied
    · intro fine
      exact (replies_or_overloads server line).resolve_right fun ⟨crash, overloads⟩ =>
        fine crash overloads
  refine ⟨replies, fun crash overloads => handleLine_of_overloads overloads, ?_⟩
  intro exchange bytes asks written fine
  rw [← replies]
  rcases handled : server.handleLine line with ⟨crash | reply, next⟩
  · rw [Client.answerLine_crash ⟨server, exchange⟩ asks written handled]
    simp [Client.Exchange.crashed]
  · rw [Client.answerLine_reply ⟨server, exchange⟩ asks written handled]
    simpa [Client.Exchange.send] using fine

theorem asks_padded (count : Nat) :
    Client.Asks (32 :: List.replicate count 49) (List.replicate count 49) where
  around := ⟨[32], [], by simp, List.forall_mem_singleton.mpr rfl, by simp⟩
  first := fun b member => List.eq_of_mem_replicate (List.mem_of_mem_head? member) ▸ rfl
  last := fun b member => List.eq_of_mem_replicate (List.mem_of_mem_getLast? member) ▸ rfl

theorem handleLine_replies_iff_padded :
    let server := Server.initial LineBuffer.defaultLimit defaultDepth
    let line := List.replicate 4301 49
    server.Overloads line (.longInteger 4301) ∧
      server.handleLine line = (.error (.longInteger 4301), server) ∧
      Client.Asks (32 :: line) line ∧ line ≠ [] ∧ Client.Exchange.opened.crash = none ∧
      ((Client.answerLine ⟨server, .opened⟩ (.whole (32 :: line))).exchange.crash = none ↔
        ∀ crash, ¬ server.Overloads line crash) := by
  intro server line
  obtain ⟨-, crashes, closes⟩ := handleLine_replies_iff server line
  have overloads : server.Overloads line (.longInteger 4301) := overloads_ones server (by decide)
  have asks : Client.Asks (32 :: line) line := asks_padded 4301
  have written : line ≠ [] := List.cons_ne_nil 49 (List.replicate 4300 49)
  exact ⟨overloads, crashes _ overloads, asks, written, rfl,
    closes .opened (32 :: line) asks written rfl⟩

-- Lines without a reply: an integer of 4301 digits, and 5000 arrays in one another.
theorem handleLine_unanswered :
    let server := Server.initial LineBuffer.defaultLimit defaultDepth
    let digits := List.replicate 4301 49
    let arrays := List.replicate 5000 91 ++ List.replicate 5000 93
    (¬ ∃ reply, (server.handleLine digits).1 = .ok reply) ∧
      ¬ ∃ reply, (server.handleLine arrays).1 = .ok reply := by
  intro server digits arrays
  have long : server.Overloads digits (.longInteger 4301) := overloads_ones server (by decide)
  have deep : server.Overloads arrays .tooDeep := overloads_brackets (by decide)
  exact ⟨unanswered long, unanswered deep⟩

end Server

end PocketLisp
