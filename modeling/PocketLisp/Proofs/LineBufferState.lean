import Mathlib.Data.List.DropRight
import PocketLisp.Proofs.LineBuffer

set_option autoImplicit false

namespace PocketLisp.LineBuffer

section Since

def sinceNewline (bytes : List UInt8) : List UInt8 :=
  bytes.rtakeWhile (· != newline)

variable {bytes tail : List UInt8} {lines : List (List UInt8)}

theorem bne_newline (clean : newline ∉ bytes) : ∀ b ∈ bytes, (b != newline) = true := by
  intro b member
  simp only [bne_iff_ne]
  exact fun same => clean (same ▸ member)

theorem sinceNewline_clean (clean : newline ∉ bytes) : sinceNewline bytes = bytes :=
  List.rtakeWhile_eq_self_iff.mpr (bne_newline clean)

theorem sinceNewline_append (before : List UInt8) (clean : newline ∉ tail) :
    sinceNewline (before ++ newline :: tail) = tail := by
  have kept := bne_newline (mt List.mem_reverse.mp clean)
  rw [sinceNewline, List.rtakeWhile, List.reverse_append, List.reverse_cons, List.append_assoc,
    List.takeWhile_append_of_pos kept]
  simp

theorem Splits.sinceNewline_eq (splits : Splits bytes lines tail) : sinceNewline bytes = tail := by
  rw [splits.joined]
  rcases lines.eq_nil_or_concat with rfl | ⟨lines, line, rfl⟩
  · exact sinceNewline_clean splits.tail_clean
  · simp only [List.concat_eq_append, List.flatMap_append, List.flatMap_singleton,
      List.append_assoc, List.singleton_append]
    rw [← List.append_assoc]
    exact sinceNewline_append _ splits.tail_clean

end Since

section Passes

structure Draining where
  pending : List UInt8
  discarding : Bool
  reported : List Line

/-- As long as there is a newline, a pass takes off the bytes up to the first one. They are a line,
or the end of a line reported before. The number counts the passes. -/
inductive Drains (limit : Int) : Nat → Draining → Draining → Prop
  | done {tail : List UInt8} {discarding : Bool} {reported : List Line} (clean : newline ∉ tail) :
      Drains limit 0 ⟨tail, discarding, reported⟩ ⟨tail, discarding, reported⟩
  | pass {passes : Nat} {line rest : List UInt8} {discarding : Bool} {reported : List Line}
      {final : Draining} (clean : newline ∉ line)
      (later : Drains limit passes
        ⟨rest, false, reported ++ if discarding then [] else [report limit line]⟩ final) :
      Drains limit (passes + 1) ⟨line ++ newline :: rest, discarding, reported⟩ final

-- What is left has no newline: it stays, or it goes as part of an overlong line.
def Draining.settle (limit : Int) (state : Draining) : List Line × LineBuffer :=
  if state.pending.length ≤ limit then (state.reported, ⟨limit, state.pending, state.discarding⟩)
  else (state.reported ++ if state.discarding then [] else [.overlong], ⟨limit, [], true⟩)

theorem Splits.drains (limit : Int) {bytes tail : List UInt8} {lines : List (List UInt8)}
    (splits : Splits bytes lines tail) (discarding : Bool) (reported : List Line) :
    Drains limit (bytes.count newline) ⟨bytes, discarding, reported⟩
      ⟨tail, discarding && lines.isEmpty, reported ++ reports limit discarding lines⟩ := by
  induction lines generalizing bytes discarding reported with
  | nil =>
    obtain rfl := splits.eq_tail
    rw [List.count_eq_zero.mpr splits.tail_clean]
    simpa [reports] using Drains.done splits.tail_clean
  | cons line lines ih =>
    obtain ⟨rest, rfl, clean, later⟩ := splits.uncons
    have passes : (line ++ newline :: rest).count newline = rest.count newline + 1 := by
      simp [List.count_eq_zero.mpr clean]
    have next := ih later false (reported ++ if discarding then [] else [report limit line])
    rw [passes]
    cases discarding <;> simpa [reports] using Drains.pass clean next

theorem feed_drains (buffer : LineBuffer) (chunk : List UInt8) :
    ∃ final, Drains buffer.limit ((buffer.pending ++ chunk).count newline)
        ⟨buffer.pending ++ chunk, buffer.discarding, []⟩ final ∧
      final.settle buffer.limit = buffer.feed chunk :=
  ⟨_, (cut_splits (buffer.pending ++ chunk)).drains buffer.limit buffer.discarding [], rfl⟩

end Passes

section State

variable {limit : Int}

theorem after_feedAll (nonneg : 0 ≤ limit) (chunks : List (List UInt8)) :
    newline ∉ sinceNewline chunks.flatten ∧
      After limit (sinceNewline chunks.flatten) ((empty limit).feedAll chunks) := by
  obtain ⟨lines, tail, splits, after, -⟩ := feeds_empty nonneg chunks
  rw [splits.sinceNewline_eq]
  exact ⟨splits.tail_clean, after⟩

theorem After.pending_eq {tail : List UInt8} {buffer : LineBuffer}
    (after : After limit tail buffer) (receiving : buffer.discarding = false) :
    buffer.pending = tail := by
  have short : ¬ limit < tail.length := fun long => by
    simp [after.discarding.mpr long] at receiving
  exact after.complete (Int.not_lt.mp short)

/-- Whatever chunks have come, the next one is worked off in one pass for each of its newlines, and
ends as `feed` says. The buffer holds no newline and never more than the limit. It discards exactly
when more bytes than the limit have come since the last newline; it holds these bytes when it does
not discard, and an end of them when it does. -/
theorem feedAll_invariant (limit : Int) (nonneg : 0 ≤ limit) (chunks : List (List UInt8)) :
    let buffer := (empty limit).feedAll chunks
    let since := sinceNewline chunks.flatten
    (∀ chunk, ∃ final,
      Drains limit (chunk.count newline) ⟨buffer.pending ++ chunk, buffer.discarding, []⟩ final ∧
        final.settle limit = buffer.feed chunk) ∧
    newline ∉ buffer.pending ∧
    buffer.pending.length ≤ limit ∧
    (buffer.discarding = true ↔ limit < since.length) ∧
    (buffer.discarding = false → buffer.pending = since) ∧
    (buffer.discarding = true → buffer.pending <:+ since) := by
  intro buffer since
  obtain ⟨since_clean, after⟩ := after_feedAll nonneg chunks
  have clean : newline ∉ buffer.pending := fun member => since_clean (after.suffix.subset member)
  refine ⟨?_, clean, after.bounded, after.discarding, after.pending_eq, fun _ => after.suffix⟩
  intro chunk
  -- The newlines are those of the chunk, since the buffer held none.
  have passes : (buffer.pending ++ chunk).count newline = chunk.count newline := by
    simp [List.count_eq_zero.mpr clean]
  have same : buffer.limit = limit := after.same_limit
  simpa only [passes, same] using feed_drains buffer chunk

-- With limit 2, the line `abcd` has exceeded the limit, and its last byte is held.
theorem feedAll_invariant_discarding :
    (0 : Int) ≤ 2 ∧
      let buffer := (empty 2).feedAll [[120, 10, 97, 98, 99], [100]]
      let since := sinceNewline [120, 10, 97, 98, 99, 100]
      buffer = ⟨2, [100], true⟩ ∧ since = [97, 98, 99, 100] ∧
        (∀ chunk, ∃ final,
          Drains 2 (chunk.count newline) ⟨buffer.pending ++ chunk, buffer.discarding, []⟩ final ∧
            final.settle 2 = buffer.feed chunk) ∧
        newline ∉ buffer.pending ∧
        buffer.pending.length ≤ (2 : Int) ∧
        (buffer.discarding = true ↔ (2 : Int) < since.length) ∧
        (buffer.discarding = false → buffer.pending = since) ∧
        (buffer.discarding = true → buffer.pending <:+ since) :=
  ⟨by decide, by decide, by decide,
    feedAll_invariant 2 (by decide) [[120, 10, 97, 98, 99], [100]]⟩

end State

end PocketLisp.LineBuffer
