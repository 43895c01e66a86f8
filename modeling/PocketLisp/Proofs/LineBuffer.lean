import PocketLisp.LineBuffer

set_option autoImplicit false

namespace PocketLisp.LineBuffer

/-- The bytes are `lines`, each followed by a newline, and then `tail`, with no other newline. -/
structure Splits (bytes : List UInt8) (lines : List (List UInt8)) (tail : List UInt8) : Prop where
  joined : bytes = lines.flatMap (· ++ [newline]) ++ tail
  lines_clean : ∀ line ∈ lines, newline ∉ line
  tail_clean : newline ∉ tail

theorem cutFrom_clean (read bytes : List UInt8) (clean : newline ∉ bytes) :
    cutFrom read bytes = ([], read.reverse ++ bytes) := by
  induction bytes generalizing read with
  | nil => simp [cutFrom]
  | cons b rest ih =>
    have differ : b ≠ newline := fun same => clean (by simp [same])
    have later : newline ∉ rest := fun member => clean (by simp [member])
    simp [cutFrom, differ, ih _ later]

theorem cutFrom_line (read line rest : List UInt8) (clean : newline ∉ line) :
    cutFrom read (line ++ newline :: rest) =
      ((read.reverse ++ line) :: (cut rest).1, (cut rest).2) := by
  induction line generalizing read with
  | nil => simp [cutFrom, cut]
  | cons b line ih =>
    have differ : b ≠ newline := fun same => clean (by simp [same])
    have later : newline ∉ line := fun member => clean (by simp [member])
    simp [cutFrom, differ, ih _ later]

theorem cut_clean {bytes : List UInt8} (clean : newline ∉ bytes) : cut bytes = ([], bytes) := by
  simpa [cut] using cutFrom_clean [] bytes clean

theorem cut_line {line : List UInt8} (clean : newline ∉ line) (rest : List UInt8) :
    cut (line ++ newline :: rest) = (line :: (cut rest).1, (cut rest).2) := by
  simpa [cut] using cutFrom_line [] line rest clean

theorem clean_or_line (bytes : List UInt8) :
    newline ∉ bytes ∨ ∃ line rest, newline ∉ line ∧ bytes = line ++ newline :: rest := by
  by_cases member : newline ∈ bytes
  · obtain ⟨line, rest, joined, clean⟩ := List.eq_append_cons_of_mem member
    exact .inr ⟨line, rest, clean, joined⟩
  · exact .inl member

namespace Splits

variable {bytes chunk rest : List UInt8} {lines more : List (List UInt8)} {tail last : List UInt8}

theorem clean (clean : newline ∉ bytes) : Splits bytes [] bytes :=
  ⟨by simp, by simp, clean⟩

theorem nil : Splits [] [] [] :=
  clean (by simp)

theorem append_clean (splits : Splits bytes lines tail) (clean : newline ∉ chunk) :
    Splits (bytes ++ chunk) lines (tail ++ chunk) where
  joined := by simp [splits.joined]
  lines_clean := splits.lines_clean
  tail_clean := by simp [splits.tail_clean, clean]

theorem append_line (splits : Splits bytes lines tail) (clean : newline ∉ chunk)
    (later : Splits rest more last) :
    Splits (bytes ++ (chunk ++ newline :: rest)) (lines ++ (tail ++ chunk) :: more) last where
  joined := by simp [splits.joined, later.joined]
  lines_clean := by
    intro line member
    -- The tail and the bytes up to the next newline make the line in the middle.
    rcases List.mem_append.mp member with old | new
    · exact splits.lines_clean line old
    · rcases List.mem_cons.mp new with rfl | new
      · simp [splits.tail_clean, clean]
      · exact later.lines_clean line new
  tail_clean := later.tail_clean

theorem eq_tail (splits : Splits bytes [] tail) : bytes = tail := by
  simpa using splits.joined

theorem uncons {line : List UInt8} (splits : Splits bytes (line :: lines) tail) :
    ∃ rest, bytes = line ++ newline :: rest ∧ newline ∉ line ∧ Splits rest lines tail := by
  refine ⟨lines.flatMap (· ++ [newline]) ++ tail, by simp [splits.joined],
    splits.lines_clean line (by simp), rfl, ?_, splits.tail_clean⟩
  exact fun other member => splits.lines_clean other (by simp [member])

theorem cut_eq (splits : Splits bytes lines tail) : cut bytes = (lines, tail) := by
  induction lines generalizing bytes with
  | nil =>
    rw [splits.eq_tail]
    exact cut_clean splits.tail_clean
  | cons line lines ih =>
    obtain ⟨rest, rfl, clean, later⟩ := splits.uncons
    rw [cut_line clean, ih later]

end Splits

theorem cut_splits (bytes : List UInt8) : Splits bytes (cut bytes).1 (cut bytes).2 := by
  -- What follows the first newline is shorter.
  induction size : bytes.length using Nat.strongRecOn generalizing bytes with
  | _ size ih =>
    rcases clean_or_line bytes with clean | ⟨line, rest, clean, rfl⟩
    · rw [cut_clean clean]
      exact .clean clean
    · have later := ih rest.length (by simp at size; omega) rest rfl
      rw [cut_line clean]
      simpa using Splits.nil.append_line clean later

def expected (limit : Int) (lines : List (List UInt8)) (tail : List UInt8) : List Line :=
  lines.map (fun line => if line.length ≤ limit then .whole line else .overlong) ++
    if tail.length ≤ limit then [] else [.overlong]

theorem expected_of_short {limit : Int} {tail : List UInt8} (lines : List (List UInt8))
    (short : tail.length ≤ limit) : expected limit lines tail = lines.map (report limit) := by
  simp only [expected, if_pos short, List.append_nil]
  rfl

theorem expected_of_long {limit : Int} {tail : List UInt8} (lines : List (List UInt8))
    (long : limit < tail.length) :
    expected limit lines tail = lines.map (report limit) ++ [.overlong] := by
  simp only [expected, if_neg (Int.not_le.mpr long)]
  rfl

structure After (limit : Int) (tail : List UInt8) (buffer : LineBuffer) : Prop where
  same_limit : buffer.limit = limit
  discarding : buffer.discarding = true ↔ limit < tail.length
  suffix : buffer.pending <:+ tail
  bounded : buffer.pending.length ≤ limit
  complete : tail.length ≤ limit → buffer.pending = tail

theorem After.of_short {limit : Int} {tail : List UInt8} (short : tail.length ≤ limit) :
    After limit tail ⟨limit, tail, false⟩ where
  same_limit := rfl
  discarding := by simpa using short
  suffix := List.suffix_refl _
  bounded := short
  complete := fun _ => rfl

theorem After.of_long {limit : Int} {tail pending : List UInt8} (long : limit < tail.length)
    (suffix : pending <:+ tail) (bounded : pending.length ≤ limit) :
    After limit tail ⟨limit, pending, true⟩ where
  same_limit := rfl
  discarding := by simpa using long
  suffix := suffix
  bounded := bounded
  complete := fun short => absurd long (by omega)

theorem feed_clean (buffer : LineBuffer) {chunk : List UInt8}
    (clean : newline ∉ buffer.pending ++ chunk) :
    buffer.feed chunk =
      if (buffer.pending ++ chunk).length ≤ buffer.limit then
        ([], ⟨buffer.limit, buffer.pending ++ chunk, buffer.discarding⟩)
      else (if buffer.discarding then [] else [.overlong], ⟨buffer.limit, [], true⟩) := by
  simp only [feed, cut_clean clean, reports]
  cases buffer.discarding <;> simp

theorem feed_line (buffer : LineBuffer) {first rest last : List UInt8} {more : List (List UInt8)}
    (clean : newline ∉ buffer.pending ++ first) (later : Splits rest more last) :
    buffer.feed (first ++ newline :: rest) =
      ((if buffer.discarding then [] else [report buffer.limit (buffer.pending ++ first)]) ++
          more.map (report buffer.limit) ++
          (if last.length ≤ buffer.limit then [] else [.overlong]),
        if last.length ≤ buffer.limit then ⟨buffer.limit, last, false⟩
        else ⟨buffer.limit, [], true⟩) := by
  have lines : cut (buffer.pending ++ (first ++ newline :: rest)) =
      ((buffer.pending ++ first) :: more, last) := by
    rw [← List.append_assoc, cut_line clean, later.cut_eq]
  simp only [feed, lines, reports]
  by_cases short : (last.length : Int) ≤ buffer.limit <;> cases buffer.discarding <;> simp [short]

section Feeding

variable {limit : Int} {bytes tail chunk : List UInt8} {lines : List (List UInt8)}
  {buffer : LineBuffer}

theorem After.pending_clean (after : After limit tail buffer) (tail_clean : newline ∉ tail)
    (clean : newline ∉ chunk) : newline ∉ buffer.pending ++ chunk := by
  have kept : newline ∉ buffer.pending := fun member => tail_clean (after.suffix.subset member)
  simp [kept, clean]

theorem After.receiving (after : After limit tail buffer) (short : tail.length ≤ limit) :
    buffer.discarding = false := by
  simpa using mt after.discarding.mp (Int.not_lt.mpr short)

theorem After.feed_clean (after : After limit tail buffer) (nonneg : 0 ≤ limit)
    (tail_clean : newline ∉ tail) (clean : newline ∉ chunk) :
    After limit (tail ++ chunk) (buffer.feed chunk).2 ∧
      expected limit lines tail ++ (buffer.feed chunk).1 =
        expected limit lines (tail ++ chunk) := by
  rw [LineBuffer.feed_clean buffer (after.pending_clean tail_clean clean), after.same_limit]
  by_cases short : (tail.length : Int) ≤ limit
  · rw [after.complete short, after.receiving short, expected_of_short lines short]
    by_cases fits : ((tail ++ chunk).length : Int) ≤ limit
    · rw [if_pos fits, expected_of_short lines fits]
      exact ⟨.of_short fits, List.append_nil _⟩
    · rw [if_neg fits, expected_of_long lines (Int.not_le.mp fits)]
      exact ⟨.of_long (Int.not_le.mp fits) List.nil_suffix nonneg, rfl⟩
  · -- The line was reported before, and the rest of it is dropped without a second report.
    have discarding : buffer.discarding = true := after.discarding.mpr (Int.not_le.mp short)
    have long : limit < (tail ++ chunk).length := by simp; omega
    have suffix : buffer.pending ++ chunk <:+ tail ++ chunk := by
      obtain ⟨dropped, joined⟩ := after.suffix
      exact ⟨dropped, by simp [← joined]⟩
    rw [discarding, expected_of_long lines (Int.not_le.mp short), expected_of_long lines long]
    by_cases fits : ((buffer.pending ++ chunk).length : Int) ≤ limit
    · rw [if_pos fits]
      exact ⟨.of_long long suffix fits, List.append_nil _⟩
    · rw [if_neg fits]
      exact ⟨.of_long long List.nil_suffix nonneg, List.append_nil _⟩

theorem After.feed_line {first rest last : List UInt8} {more : List (List UInt8)}
    (after : After limit tail buffer) (nonneg : 0 ≤ limit) (tail_clean : newline ∉ tail)
    (clean : newline ∉ first) (later : Splits rest more last) :
    After limit last (buffer.feed (first ++ newline :: rest)).2 ∧
      expected limit lines tail ++ (buffer.feed (first ++ newline :: rest)).1 =
        expected limit (lines ++ (tail ++ first) :: more) last := by
  rw [LineBuffer.feed_line buffer (after.pending_clean tail_clean clean) later, after.same_limit]
  constructor
  · by_cases fits : (last.length : Int) ≤ limit
    · simp only [if_pos fits]
      exact .of_short fits
    · simp only [if_neg fits]
      exact .of_long (Int.not_le.mp fits) List.nil_suffix nonneg
  · by_cases short : (tail.length : Int) ≤ limit
    · simp [expected, report, after.complete short, after.receiving short, short]
    · -- The line that ends here exceeded the limit before, and was reported then.
      have discarding : buffer.discarding = true := after.discarding.mpr (Int.not_le.mp short)
      have long : ¬ ((tail.length : Int) + first.length ≤ limit) := by omega
      simp [expected, report, discarding, short, long]

theorem After.feed (after : After limit tail buffer) (nonneg : 0 ≤ limit)
    (splits : Splits bytes lines tail) (chunk : List UInt8) :
    ∃ lines' tail', Splits (bytes ++ chunk) lines' tail' ∧
      After limit tail' (buffer.feed chunk).2 ∧
      expected limit lines tail ++ (buffer.feed chunk).1 = expected limit lines' tail' := by
  rcases clean_or_line chunk with clean | ⟨first, rest, clean, rfl⟩
  · exact ⟨lines, tail ++ chunk, splits.append_clean clean,
      after.feed_clean nonneg splits.tail_clean clean⟩
  · have later := cut_splits rest
    exact ⟨_, _, splits.append_line clean later,
      after.feed_line nonneg splits.tail_clean clean later⟩

end Feeding

def feeds (buffer : LineBuffer) : List (List UInt8) → List (List Line)
  | [] => []
  | chunk :: rest => (buffer.feed chunk).1 :: (buffer.feed chunk).2.feeds rest

def feedAll (buffer : LineBuffer) (chunks : List (List UInt8)) : LineBuffer :=
  chunks.foldl (fun buffer chunk => (buffer.feed chunk).2) buffer

theorem After.feeds {limit : Int} {bytes tail : List UInt8} {lines : List (List UInt8)}
    {buffer : LineBuffer} (after : After limit tail buffer) (nonneg : 0 ≤ limit)
    (splits : Splits bytes lines tail) (chunks : List (List UInt8)) :
    ∃ lines' tail', Splits (bytes ++ chunks.flatten) lines' tail' ∧
      After limit tail' (buffer.feedAll chunks) ∧
      expected limit lines tail ++ (buffer.feeds chunks).flatten = expected limit lines' tail' := by
  induction chunks generalizing bytes lines tail buffer with
  | nil => exact ⟨lines, tail, by simpa using splits, after, by simp [LineBuffer.feeds]⟩
  | cons chunk rest ih =>
    obtain ⟨lines₁, tail₁, splits₁, after₁, reported₁⟩ := after.feed nonneg splits chunk
    obtain ⟨lines₂, tail₂, splits₂, after₂, reported₂⟩ := ih after₁ splits₁
    refine ⟨lines₂, tail₂, by simpa using splits₂, after₂, ?_⟩
    simp only [LineBuffer.feeds, List.flatten_cons, ← List.append_assoc, reported₁, reported₂]

theorem feeds_empty {limit : Int} (nonneg : 0 ≤ limit) (chunks : List (List UInt8)) :
    ∃ lines tail, Splits chunks.flatten lines tail ∧
      After limit tail ((empty limit).feedAll chunks) ∧
      ((empty limit).feeds chunks).flatten = expected limit lines tail := by
  have start : After limit [] (empty limit) := .of_short nonneg
  obtain ⟨lines, tail, splits, after, reported⟩ := start.feeds nonneg .nil chunks
  rw [expected_of_short [] nonneg] at reported
  exact ⟨lines, tail, splits, after, reported⟩

theorem feeds_flatten {limit : Int} (nonneg : 0 ≤ limit) (chunks : List (List UInt8)) :
    ∃ lines tail, Splits chunks.flatten lines tail ∧
      ((empty limit).feeds chunks).flatten = expected limit lines tail := by
  obtain ⟨lines, tail, splits, -, reported⟩ := feeds_empty nonneg chunks
  exact ⟨lines, tail, splits, reported⟩

/-- However a stream is cut into chunks, the lines reported are those of the whole stream: each
complete line once and in order, as itself or as overlong, and a last report when the bytes after
the last newline exceed the limit. -/
theorem feeds_eq_expected (limit : Int) (nonneg : 0 ≤ limit) (chunks : List (List UInt8)) :
    ∃ lines tail, Splits chunks.flatten lines tail ∧
      (∀ lines' tail', Splits chunks.flatten lines' tail' → lines' = lines ∧ tail' = tail) ∧
      ((empty limit).feeds chunks).flatten = expected limit lines tail := by
  obtain ⟨lines, tail, splits, -, reported⟩ := feeds_empty nonneg chunks
  refine ⟨lines, tail, splits, ?_, reported⟩
  intro lines' tail' splits'
  -- Both are what `cut` finds.
  exact Prod.mk.inj (splits'.cut_eq.symm.trans splits.cut_eq)

-- With limit 2, the stream `abc⏎d⏎` has an overlong line and a good one, cut here inside both.
theorem feeds_eq_expected_cut :
    (0 : Int) ≤ 2 ∧ ∃ lines tail, Splits [97, 98, 99, 10, 100, 10] lines tail ∧
      (∀ lines' tail', Splits [97, 98, 99, 10, 100, 10] lines' tail' →
        lines' = lines ∧ tail' = tail) ∧
      ((empty 2).feeds [[97, 98, 99], [], [10, 100], [10]]).flatten = expected 2 lines tail :=
  ⟨by decide, feeds_eq_expected 2 (by decide) [[97, 98, 99], [], [10, 100], [10]]⟩

end PocketLisp.LineBuffer
