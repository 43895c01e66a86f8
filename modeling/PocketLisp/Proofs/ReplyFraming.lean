import Mathlib.Data.List.Forall2
import PocketLisp.Proofs.JsonText

set_option autoImplicit false

namespace PocketLisp

namespace Reply

def body (reply : Reply) : List UInt8 :=
  reply.toJson.write.toList.map fun c => UInt8.ofNat c.toNat

-- The bytes are JSON text that reads as the object of the reply, whatever nesting above none is
-- allowed.
def ReadFrom (reply : Reply) (bytes : List UInt8) : Prop :=
  ∃ text, Utf8.decode bytes = .ok text ∧
    ∀ depth, Json.read (depth + 1) text = .ok reply.toJson

theorem toLine_eq (reply : Reply) : reply.toLine = reply.body ++ [LineBuffer.newline] := by
  rw [toLine, List.map_append]
  rfl

theorem legible (reply : Reply) (depth : Nat) : Json.Legible (depth + 1) reply.toJson := by
  cases reply with
  | evaluated answer =>
    refine Json.legible_obj ?_ (by simp)
    simp only [List.forall_mem_cons]
    exact ⟨Json.legible_bool .., Json.legible_str .., Json.legible_str .., nofun⟩
  | done =>
    refine Json.legible_obj ?_ (by simp)
    simp only [List.forall_mem_cons]
    exact ⟨Json.legible_bool .., nofun⟩
  | failed error =>
    refine Json.legible_obj ?_ (by simp)
    simp only [List.forall_mem_cons]
    exact ⟨Json.legible_bool .., Json.legible_str .., nofun⟩

theorem toNat_ofNat_shown {c : Char} (shown : Json.Shown c) :
    (UInt8.ofNat c.toNat).toNat = c.toNat := by
  have small := shown.2
  rw [UInt8.toNat_ofNat']
  omega

theorem body_ascii (reply : Reply) :
    LineBuffer.newline ∉ reply.body ∧ ∀ b ∈ reply.body, b.toNat < 0x80 := by
  have printable := (reply.legible 0).printable
  have bytes : ∀ b ∈ reply.body, 32 ≤ b.toNat ∧ b.toNat < 0x80 := by
    intro b member
    obtain ⟨c, written, rfl⟩ := List.mem_map.mp member
    have shown := printable c written
    rw [toNat_ofNat_shown shown]
    exact ⟨shown.1, Nat.lt_of_lt_of_le shown.2 (by decide)⟩
  refine ⟨fun newline => ?_, fun b member => (bytes b member).2⟩
  exact absurd (bytes _ newline).1 (by decide)

theorem decode_body (reply : Reply) : Utf8.decode reply.body = .ok reply.toJson.write.toList := by
  have printable := (reply.legible 0).printable
  rw [Utf8.decode_ascii reply.body_ascii.2, body, List.map_map]
  congr 1
  conv_rhs => rw [← List.map_id reply.toJson.write.toList]
  refine List.map_congr_left fun c written => ?_
  rw [Function.comp_apply, toNat_ofNat_shown (printable c written), Char.ofNat_toNat, id]

theorem splits (replies : List Reply) :
    LineBuffer.Splits (replies.map toLine).flatten (replies.map body) [] where
  joined := by
    rw [List.append_nil, ← List.flatMap_def, List.flatMap_map]
    exact List.flatMap_congr fun reply _ => reply.toLine_eq
  lines_clean := by
    intro line member
    obtain ⟨reply, -, rfl⟩ := List.mem_map.mp member
    exact reply.body_ascii.1
  tail_clean := List.not_mem_nil

theorem feeds_bodies (replies : List Reply) {limit : Int} (nonneg : 0 ≤ limit)
    (fits : ∀ message ∈ replies.map toLine, message.length ≤ limit) {pieces : List (List UInt8)}
    (cut : pieces.flatten = (replies.map toLine).flatten) :
    ((LineBuffer.empty limit).feeds pieces).flatten = (replies.map body).map .whole := by
  obtain ⟨lines, tail, found, reported⟩ := LineBuffer.feeds_flatten nonneg pieces
  rw [cut] at found
  obtain ⟨rfl, rfl⟩ := Prod.mk.inj (found.cut_eq.symm.trans (splits replies).cut_eq)
  rw [reported, LineBuffer.expected_of_short _ nonneg]
  refine List.map_congr_left fun line member => ?_
  obtain ⟨reply, among, rfl⟩ := List.mem_map.mp member
  -- The newline counts as a byte of the message but not of the line.
  have room := fits reply.toLine (List.mem_map_of_mem among)
  rw [toLine_eq, List.length_append] at room
  have short : (reply.body.length : Int) ≤ limit := by
    push_cast at room
    omega
  exact if_pos short

end Reply

namespace Client

/-- What a server sends to a client is one line for each reply: ASCII, with no newline but the last
byte. Put together and cut anywhere, the lines come out of a line buffer one by one and in order, if
its limit leaves room for them, and each decodes to the object of its reply. No limit below zero has
room for a message, so asking for one of at least zero matters only if nothing was sent. -/
theorem serve_framed (server : Server) (script : List Received) :
    let state := serve server script
    ∃ lines replies,
      Answers server ((LineBuffer.empty server.maxLineBytes).feeds (chunks script)).flatten replies
        state.server state.exchange.crash ∧
      state.exchange.sent = lines.map (· ++ [LineBuffer.newline]) ∧
      (∀ line ∈ lines, LineBuffer.newline ∉ line ∧ ∀ b ∈ line, b.toNat < 0x80) ∧
      List.Forall₂ Reply.ReadFrom replies lines ∧
      ∀ (limit : Int) (pieces : List (List UInt8)), 0 ≤ limit →
        (∀ message ∈ state.exchange.sent, message.length ≤ limit) →
        pieces.flatten = state.exchange.sent.flatten →
        ((LineBuffer.empty limit).feeds pieces).flatten = lines.map .whole := by
  intro state
  obtain ⟨-, replies, answers, sent⟩ := serve_sends server script
  refine ⟨replies.map Reply.body, replies, answers, ?_, ?_, ?_, ?_⟩
  · rw [sent, List.map_map]
    exact List.map_congr_left fun reply _ => reply.toLine_eq
  · intro line member
    obtain ⟨reply, -, rfl⟩ := List.mem_map.mp member
    exact reply.body_ascii
  · rw [List.forall₂_map_right_iff, List.forall₂_same]
    intro reply _
    exact ⟨_, reply.decode_body, fun depth => (reply.legible depth).read_write⟩
  · intro limit pieces nonneg fits cut
    rw [sent] at fits cut
    exact Reply.feeds_bodies replies nonneg fits cut

-- The reply to a command named `é⏎`, which is unknown, is a line of 47 characters, cut here
-- inside the escape of the first of the two.
theorem serve_framed_escapes :
    let server := Server.initial LineBuffer.defaultLimit Server.defaultDepth
    let script := [.chunk [123, 34, 99, 109, 100, 34, 58, 34, 195],
      .chunk [169, 92, 110, 34, 125, 10]]
    let sent := (serve server script).exchange.sent
    let pieces := [sent.flatten.take 40, [], sent.flatten.drop 40]
    sent.map List.length = [48] ∧ (0 : Int) ≤ 48 ∧
      (∀ message ∈ sent, (message.length : Int) ≤ 48) ∧ pieces.flatten = sent.flatten ∧
      ∃ lines replies, sent = lines.map (· ++ [LineBuffer.newline]) ∧
        List.Forall₂ Reply.ReadFrom replies lines ∧
        ((LineBuffer.empty 48).feeds pieces).flatten = lines.map .whole := by
  intro server script sent pieces
  have lengths : sent.map List.length = [48] := by rfl
  have fits : ∀ message ∈ sent, (message.length : Int) ≤ 48 := by decide
  have cut : pieces.flatten = sent.flatten := by simp [pieces]
  obtain ⟨lines, replies, -, shape, -, decoded, found⟩ := serve_framed server script
  exact ⟨lengths, by decide, fits, cut, lines, replies, shape, decoded,
    found 48 pieces (by decide) fits cut⟩

end Client

end PocketLisp
