import Mathlib.Tactic.SplitIfs
import PocketLisp.Json.Write
import PocketLisp.Proofs.RequestLines

set_option autoImplicit false

namespace PocketLisp.Json

def Shown (c : Char) : Prop :=
  32 ≤ c.toNat ∧ c.toNat < 127

instance (c : Char) : Decidable (Shown c) :=
  inferInstanceAs (Decidable (_ ∧ _))

def Printable (text : List Char) : Prop :=
  ∀ c ∈ text, Shown c

theorem Printable.append {left right : List Char} (first : Printable left)
    (second : Printable right) : Printable (left ++ right) := by
  intro c member
  rcases List.mem_append.mp member with before | after
  · exact first c before
  · exact second c after

section Characters

theorem hexDigit_spec :
    ∀ n < 16, hexValue? (Text.hexDigit n) = some n ∧ Shown (Text.hexDigit n) := by
  decide

theorem hex_four {n : Nat} (small : n < 0x10000) :
    ∃ a b c d, Text.hex 4 n = [a, b, c, d] ∧ codeUnit? a b c d = some n := by
  have first := (hexDigit_spec (n / 16 / 16 / 16 % 16) (Nat.mod_lt _ (by decide))).1
  have second := (hexDigit_spec (n / 16 / 16 % 16) (Nat.mod_lt _ (by decide))).1
  have third := (hexDigit_spec (n / 16 % 16) (Nat.mod_lt _ (by decide))).1
  have fourth := (hexDigit_spec (n % 16) (Nat.mod_lt _ (by decide))).1
  refine ⟨_, _, _, _, rfl, ?_⟩
  simp only [codeUnit?, first, second, third, fourth, Option.some.injEq]
  omega

theorem hex_printable (width n : Nat) : Printable (Text.hex width n) := by
  induction width generalizing n with
  | zero => exact nofun
  | succ width ih =>
    have last := (hexDigit_spec (n % 16) (Nat.mod_lt _ (by decide))).2
    exact (ih (n / 16)).append (List.forall_mem_singleton.mpr last)

theorem unicodeEscape_printable (code : Nat) : Printable (unicodeEscape code) := by
  have mark : Printable ['\\', 'u'] :=
    List.forall_mem_cons.mpr ⟨by decide, List.forall_mem_singleton.mpr (by decide)⟩
  unfold unicodeEscape
  split
  · exact mark.append (hex_printable 4 _)
  · exact ((mark.append (hex_printable 4 _)).append mark).append (hex_printable 4 _)

inductive Writes (c : Char) : List Char → Prop
  | short {e : Char} (means : simpleEscape? e = some c) (letter : e ≠ 'u') (shown : Shown e)
      (small : c.toNat < 0x80) : Writes c ['\\', e]
  | plain (quote : c ≠ '"') (slash : c ≠ '\\') (shown : Shown c) : Writes c [c]
  | coded : Writes c (unicodeEscape c.toNat)

theorem writeChar_writes (c : Char) : Writes c (writeChar c) := by
  unfold writeChar
  split_ifs with special newline return_ tab backspace feed shown
  · rcases special with rfl | rfl <;> exact .short rfl (by decide) (by decide) (by decide)
  · exact newline ▸ .short rfl (by decide) (by decide) (by decide)
  · exact return_ ▸ .short rfl (by decide) (by decide) (by decide)
  · exact tab ▸ .short rfl (by decide) (by decide) (by decide)
  · obtain rfl : c = '\x08' := by rw [← Char.ofNat_toNat c, backspace]
    exact .short rfl (by decide) (by decide) (by decide)
  · obtain rfl : c = '\x0c' := by rw [← Char.ofNat_toNat c, feed]
    exact .short rfl (by decide) (by decide) (by decide)
  · rw [not_or] at special
    exact .plain special.1 special.2 shown
  · exact .coded

theorem Writes.printable {c : Char} {text : List Char} (writes : Writes c text) :
    Printable text := by
  cases writes with
  | short _ _ shown =>
    exact List.forall_mem_cons.mpr ⟨by decide, List.forall_mem_singleton.mpr shown⟩
  | plain _ _ shown => exact List.forall_mem_singleton.mpr shown
  | coded => exact unicodeEscape_printable c.toNat

-- The codes that a character is written as: its own, or those of its two surrogates.
def units (c : Char) : List Nat :=
  if c.toNat < 0x10000 then [c.toNat]
  else [0xD800 + (c.toNat - 0x10000) / 0x400, 0xDC00 + (c.toNat - 0x10000) % 0x400]

theorem toNat_range (c : Char) :
    c.toNat < 0xD800 ∨ 0xDFFF < c.toNat ∧ c.toNat < 0x110000 :=
  c.valid

theorem readCodes_unit (opening position : Nat) (read : List Nat) {n : Nat} (small : n < 0x10000)
    {rest : List Char} (more : rest ≠ []) :
    readCodes opening position read ('\\' :: 'u' :: (Text.hex 4 n ++ rest)) =
      readCodes opening (position + 6) (n :: read) rest := by
  obtain ⟨a, b, c, d, digits, unit⟩ := hex_four small
  rw [digits]
  simp [readCodes, unit, more]

theorem Writes.readCodes_append {c : Char} {text : List Char} (writes : Writes c text)
    (opening position : Nat) (read : List Nat) {rest : List Char} (more : rest ≠ []) :
    ∃ after, readCodes opening position read (text ++ rest) =
      readCodes opening after ((units c).reverse ++ read) rest := by
  cases writes with
  | short means letter _ small =>
    have one : units c = [c.toNat] := if_pos (by omega)
    refine ⟨position + 2, ?_⟩
    rw [List.cons_append, List.singleton_append, readCodes.eq_def]
    simp [means, letter, one]
  | plain quote slash shown =>
    have one : units c = [c.toNat] := if_pos (by have := shown.2; omega)
    have printable : ¬ c.toNat < 32 := Nat.not_lt.mpr shown.1
    refine ⟨position + 1, ?_⟩
    rw [List.singleton_append, readCodes.eq_def]
    simp [quote, slash, printable, one]
  | coded =>
    by_cases small : c.toNat < 0x10000
    · refine ⟨position + 6, ?_⟩
      simp only [unicodeEscape, units, if_pos small]
      exact readCodes_unit opening position read small more
    · have range := toNat_range c
      refine ⟨position + 6 + 6, ?_⟩
      simp only [unicodeEscape, units, if_neg small, List.append_assoc, List.cons_append,
        List.nil_append]
      rw [readCodes_unit _ _ _ (by omega) (by simp), readCodes_unit _ _ _ (by omega) more]
      rfl

theorem readCodes_written (opening : Nat) (text rest : List Char) (position : Nat)
    (read : List Nat) :
    ∃ after, readCodes opening position read (text.flatMap writeChar ++ '"' :: rest) =
      .ok (read.reverse ++ text.flatMap units, ⟨after, rest⟩) := by
  induction text generalizing position read with
  | nil => exact ⟨position + 1, by simp [readCodes.eq_def]⟩
  | cons c text ih =>
    have more : text.flatMap writeChar ++ '"' :: rest ≠ [] := by simp
    obtain ⟨next, first⟩ := (writeChar_writes c).readCodes_append opening position read more
    obtain ⟨after, later⟩ := ih next ((units c).reverse ++ read)
    refine ⟨after, ?_⟩
    rw [List.flatMap_cons, List.append_assoc, first, later]
    simp

end Characters

section Strings

theorem joinSurrogates_unit {code : Nat} (lone : code < 0xD800 ∨ 0xDFFF < code)
    (rest : List Nat) : joinSurrogates (code :: rest) = Char.ofNat code :: joinSurrogates rest := by
  have high : isHighSurrogate code = false := by
    simp only [isHighSurrogate, Bool.and_eq_false_iff, decide_eq_false_iff_not]
    omega
  have low : isLowSurrogate code = false := by
    simp only [isLowSurrogate, Bool.and_eq_false_iff, decide_eq_false_iff_not]
    omega
  cases rest with
  | nil => simp [joinSurrogates, codeChar, high, low]
  | cons next rest => simp [joinSurrogates, codeChar, high, low]

theorem joinSurrogates_units (c : Char) (rest : List Nat) :
    joinSurrogates (units c ++ rest) = c :: joinSurrogates rest := by
  have range := toNat_range c
  by_cases small : c.toNat < 0x10000
  · rw [units, if_pos small, List.singleton_append, joinSurrogates_unit (by omega),
      Char.ofNat_toNat]
  · have high : isHighSurrogate (0xD800 + (c.toNat - 0x10000) / 0x400) = true := by
      simp only [isHighSurrogate, Bool.and_eq_true, decide_eq_true_eq]
      omega
    have low : isLowSurrogate (0xDC00 + (c.toNat - 0x10000) % 0x400) = true := by
      simp only [isLowSurrogate, Bool.and_eq_true, decide_eq_true_eq]
      omega
    have code : 0x10000 + (0xD800 + (c.toNat - 0x10000) / 0x400 - 0xD800) * 0x400 +
        (0xDC00 + (c.toNat - 0x10000) % 0x400 - 0xDC00) = c.toNat := by
      omega
    simp only [units, if_neg small, List.cons_append, List.nil_append, joinSurrogates, high, low,
      Bool.and_self, if_true, code, Char.ofNat_toNat]

theorem joinSurrogates_flatMap (text : List Char) :
    joinSurrogates (text.flatMap units) = text := by
  induction text with
  | nil => rfl
  | cons c text ih => rw [List.flatMap_cons, joinSurrogates_units, ih]

theorem readString_written (s : String) (position : Nat) (rest : List Char) :
    ∃ after, readString ⟨position, s.toList.flatMap writeChar ++ '"' :: rest⟩ =
      .ok (s, ⟨after, rest⟩) := by
  obtain ⟨after, read⟩ := readCodes_written (position - 1) s.toList rest position []
  refine ⟨after, ?_⟩
  simp only [readString, read, List.reverse_nil, List.nil_append]
  change Except.ok (String.ofList (joinSurrogates (s.toList.flatMap units)), _) = _
  rw [joinSurrogates_flatMap, String.ofList_toList]

theorem writeString_append (s : String) (rest : List Char) :
    (writeString s).toList ++ rest = '"' :: (s.toList.flatMap writeChar ++ '"' :: rest) := by
  simp [writeString]

theorem writeString_printable (s : String) : Printable (writeString s).toList := by
  have mark : Printable ['"'] := List.forall_mem_singleton.mpr (by decide)
  have body : Printable (s.toList.flatMap writeChar) := by
    intro d member
    obtain ⟨c, -, written⟩ := List.mem_flatMap.mp member
    exact (writeChar_writes c).printable d written
  have text : (writeString s).toList = ['"'] ++ s.toList.flatMap writeChar ++ ['"'] := by
    simp [writeString]
  rw [text]
  exact (mark.append body).append mark

end Strings

section Values

/-- The text of `v` is printable, starts with no blank, and reads back as `v` whatever follows. -/
structure Legible (depth : Nat) (v : Json) : Prop where
  printable : Printable v.write.toList
  starts : ∃ c text, v.write.toList = c :: text ∧ Cursor.isBlank c = false
  reads : ∀ position rest, ∃ after,
    readValue depth ⟨position, v.write.toList ++ rest⟩ = .ok (v, ⟨after, rest⟩)

theorem readValue_start (depth position : Nat) {c : Char} (bracket : c ≠ '[') (brace : c ≠ '\x7b')
    (text : List Char) :
    readValue depth ⟨position, c :: text⟩ = readScalar ⟨position, c :: text⟩ := by
  refine readValue_scalar depth fun _ => ⟨fun same => ?_, fun same => ?_⟩
  · exact bracket (List.cons.inj same).1
  · exact brace (List.cons.inj same).1

theorem printable_of_all {text : String}
    (all : text.toList.all (fun c => decide (Shown c)) = true) : Printable text.toList := by
  simpa [Printable] using all

theorem legible_bool (depth : Nat) (b : Bool) : Legible depth (.bool b) := by
  cases b with
  | false =>
    refine ⟨printable_of_all (by decide), ⟨'f', _, rfl, rfl⟩, fun position rest => ?_⟩
    refine ⟨position + 5, ?_⟩
    exact readValue_start depth position (by decide) (by decide) _
  | true =>
    refine ⟨printable_of_all (by decide), ⟨'t', _, rfl, rfl⟩, fun position rest => ?_⟩
    refine ⟨position + 4, ?_⟩
    exact readValue_start depth position (by decide) (by decide) _

theorem legible_str (depth : Nat) (s : String) : Legible depth (.str s) := by
  have text : (Json.str s).write.toList = (writeString s).toList := by rw [write]
  refine ⟨?_, ⟨'"', s.toList.flatMap writeChar ++ ['"'], ?_, rfl⟩, fun position rest => ?_⟩
  · rw [text]
    exact writeString_printable s
  · have whole := writeString_append s []
    rwa [List.append_nil, ← text] at whole
  · obtain ⟨after, read⟩ := readString_written s (position + 1) rest
    refine ⟨after, ?_⟩
    rw [text, writeString_append, readValue_start depth position (by decide) (by decide)]
    simp only [readScalar, Cursor.advance, List.drop_succ_cons, List.drop_zero, read]
    rfl

theorem ok_bind {α β : Type} (a : α) (next : α → Except Fault β) :
    (Except.ok a >>= next) = next a := rfl

theorem skipBlanks_space (position : Nat) {c : Char} (dark : Cursor.isBlank c = false)
    (text : List Char) :
    Cursor.skipBlanks ⟨position, ' ' :: c :: text⟩ = ⟨position + 1, c :: text⟩ := by
  have light : Cursor.isBlank ' ' = true := rfl
  simp [Cursor.skipBlanks, Cursor.advance, light, dark]

theorem readKey_written (key : String) (position : Nat) {c : Char}
    (dark : Cursor.isBlank c = false) (text : List Char) :
    ∃ after, readKey ⟨position, (writeString key).toList ++ ':' :: ' ' :: c :: text⟩ =
      .ok (key, ⟨after, c :: text⟩) := by
  obtain ⟨after, read⟩ := readString_written key (position + 1) (':' :: ' ' :: c :: text)
  have colon : Cursor.isBlank ':' = false := rfl
  refine ⟨after + 1 + 1, ?_⟩
  rw [writeString_append]
  simp only [readKey, Cursor.advance, List.drop_succ_cons, List.drop_zero, read, ok_bind,
    skipBlanks_dark colon, skipBlanks_space _ dark]
  rfl

theorem put_new {key : String} {fields : List (String × Json)} (new : key ∉ fields.map Prod.fst)
    (v : Json) : put key v fields = fields ++ [(key, v)] := by
  induction fields with
  | nil => rfl
  | cons field fields ih =>
    simp only [List.map_cons, List.mem_cons, not_or] at new
    rw [put, if_neg (Ne.symm new.1), ih new.2]
    rfl

theorem writeFields_cons (key : String) (v : Json) (fields : List (String × Json)) :
    writeFields ((key, v) :: fields) =
      (writeString key ++ ": " ++ v.write) :: writeFields fields := by
  rw [writeFields]

variable {depth : Nat}

-- What follows a field is the end of the object or a comma and the mark that opens the next key.
theorem readFields_field {v : Json} (legible : Legible depth v) (key : String) (b : Char)
    (bound : List Char) (fields : List (String × Json)) (position : Nat) (rest : List Char) :
    (∃ after, readFields (readValue depth) (b :: bound) fields
        ⟨position, (writeString key ++ ": " ++ v.write).toList ++ '\x7d' :: rest⟩ =
      .ok (put key v fields, ⟨after, rest⟩)) ∧
    ∃ after, readFields (readValue depth) (b :: bound) fields
        ⟨position, (writeString key ++ ": " ++ v.write).toList ++ ',' :: ' ' :: '"' :: rest⟩ =
      readFields (readValue depth) bound (put key v fields) ⟨after, '"' :: rest⟩ := by
  obtain ⟨c, text, start, dark⟩ := legible.starts
  have comma : Cursor.isBlank ',' = false := rfl
  have brace : Cursor.isBlank '\x7d' = false := rfl
  have quote : Cursor.isBlank '"' = false := rfl
  have joined (tail : List Char) : (writeString key ++ ": " ++ v.write).toList ++ tail =
      (writeString key).toList ++ ':' :: ' ' :: c :: (text ++ tail) := by
    simp [start]
  constructor
  · obtain ⟨place, named⟩ := readKey_written key position dark (text ++ '\x7d' :: rest)
    obtain ⟨after, read⟩ := legible.reads place ('\x7d' :: rest)
    rw [start, List.cons_append] at read
    refine ⟨after + 1, ?_⟩
    rw [joined]
    simp only [readFields, named, ok_bind, read, skipBlanks_dark brace]
    rfl
  · obtain ⟨place, named⟩ := readKey_written key position dark (text ++ ',' :: ' ' :: '"' :: rest)
    obtain ⟨after, read⟩ := legible.reads place (',' :: ' ' :: '"' :: rest)
    rw [start, List.cons_append] at read
    refine ⟨after + 1 + 1, ?_⟩
    rw [joined]
    simp only [readFields, named, ok_bind, read, skipBlanks_dark comma, Cursor.advance,
      List.drop_succ_cons, List.drop_zero, skipBlanks_space _ quote]

def fieldsText (fields : List (String × Json)) : List Char :=
  (", ".intercalate (writeFields fields)).toList

theorem fieldsText_single (key : String) (v : Json) :
    fieldsText [(key, v)] = (writeString key ++ ": " ++ v.write).toList := by
  simp [fieldsText, writeFields]

theorem fieldsText_cons (key : String) (v : Json) (next : String × Json)
    (fields : List (String × Json)) :
    fieldsText ((key, v) :: next :: fields) =
      (writeString key ++ ": " ++ v.write).toList ++ ',' :: ' ' :: fieldsText (next :: fields) := by
  rw [fieldsText, writeFields_cons, String.intercalate_cons_of_ne_nil (by simp [writeFields])]
  simp [fieldsText]

theorem fieldsText_start (field : String × Json) (fields : List (String × Json)) :
    ∃ text, fieldsText (field :: fields) = '"' :: text := by
  obtain ⟨key, v⟩ := field
  cases fields with
  | nil =>
    rw [fieldsText_single, String.append_assoc, String.toList_append, writeString_append]
    exact ⟨_, rfl⟩
  | cons next fields =>
    rw [fieldsText_cons, String.append_assoc, String.toList_append, List.append_assoc,
      writeString_append]
    exact ⟨_, rfl⟩

theorem key_new {key : String} {v : Json} {before fields : List (String × Json)}
    (distinct : ((before ++ (key, v) :: fields).map Prod.fst).Nodup) :
    key ∉ before.map Prod.fst := by
  intro member
  rw [List.map_append, List.nodup_append] at distinct
  exact distinct.2.2 key member key (by simp) rfl

theorem readFields_written {key : String} {v : Json} {fields : List (String × Json)}
    (legible : ∀ field ∈ (key, v) :: fields, Legible depth field.2)
    (before : List (String × Json))
    (distinct : ((before ++ (key, v) :: fields).map Prod.fst).Nodup) {bound : List Char}
    (enough : fields.length < bound.length) (position : Nat) (rest : List Char) :
    ∃ after, readFields (readValue depth) bound before
        ⟨position, fieldsText ((key, v) :: fields) ++ '\x7d' :: rest⟩ =
      .ok (before ++ (key, v) :: fields, ⟨after, rest⟩) := by
  induction fields generalizing key v before bound position with
  | nil =>
    obtain ⟨b, bound, rfl⟩ := List.exists_cons_of_length_pos (Nat.zero_lt_of_lt enough)
    have one : Legible depth v := legible (key, v) List.mem_cons_self
    obtain ⟨⟨after, last⟩, -⟩ := readFields_field one key b bound before position rest
    refine ⟨after, ?_⟩
    rw [fieldsText_single, last, put_new (key_new distinct)]
  | cons next fields ih =>
    obtain ⟨b, bound, rfl⟩ := List.exists_cons_of_length_pos (Nat.zero_lt_of_lt enough)
    obtain ⟨one, more⟩ := List.forall_mem_cons.mp legible
    obtain ⟨text, start⟩ := fieldsText_start next fields
    obtain ⟨-, place, first⟩ :=
      readFields_field one key b bound before position (text ++ '\x7d' :: rest)
    -- The field just read joins those before.
    have others : ((before ++ [(key, v)] ++ next :: fields).map Prod.fst).Nodup := by
      simpa using distinct
    obtain ⟨after, later⟩ := ih more _ others (Nat.lt_of_succ_lt_succ enough) place
    rw [start, List.cons_append] at later
    refine ⟨after, ?_⟩
    rw [fieldsText_cons, start, List.append_assoc, List.cons_append, List.cons_append,
      List.cons_append, first, put_new (key_new distinct), later, List.append_assoc]
    rfl

theorem fieldsText_printable {fields : List (String × Json)}
    (legible : ∀ field ∈ fields, Legible depth field.2) : Printable (fieldsText fields) := by
  induction fields with
  | nil => exact nofun
  | cons field fields ih =>
    obtain ⟨key, v⟩ := field
    obtain ⟨one, more⟩ := List.forall_mem_cons.mp legible
    have entry : Printable (writeString key ++ ": " ++ v.write).toList := by
      rw [String.toList_append, String.toList_append]
      exact ((writeString_printable key).append (printable_of_all (by decide))).append one.printable
    cases fields with
    | nil => rwa [fieldsText_single]
    | cons next fields =>
      have comma : Printable ", ".toList := printable_of_all (by decide)
      rw [fieldsText_cons]
      exact entry.append (comma.append (ih more))

theorem length_le_fieldsText (fields : List (String × Json)) :
    fields.length ≤ (fieldsText fields).length := by
  induction fields with
  | nil => exact Nat.zero_le _
  | cons field fields ih =>
    obtain ⟨key, v⟩ := field
    cases fields with
    | nil =>
      obtain ⟨text, start⟩ := fieldsText_start (key, v) []
      simp [start]
    | cons next fields =>
      rw [fieldsText_cons]
      simp only [List.length_append, List.length_cons] at ih ⊢
      omega

theorem legible_obj {key : String} {v : Json} {fields : List (String × Json)}
    (legible : ∀ field ∈ (key, v) :: fields, Legible depth field.2)
    (distinct : (((key, v) :: fields).map Prod.fst).Nodup) :
    Legible (depth + 1) (.obj ((key, v) :: fields)) := by
  have text : (Json.obj ((key, v) :: fields)).write.toList =
      '\x7b' :: (fieldsText ((key, v) :: fields) ++ ['\x7d']) := by
    simp [write, fieldsText]
  refine ⟨?_, ⟨_, _, text, rfl⟩, fun position rest => ?_⟩
  · have opening : Printable "\x7b".toList := printable_of_all (by decide)
    have closing : Printable "\x7d".toList := printable_of_all (by decide)
    rw [text]
    exact opening.append ((fieldsText_printable legible).append closing)
  · have quote : Cursor.isBlank '"' = false := rfl
    have long : fields.length <
        ('\x7b' :: (fieldsText ((key, v) :: fields) ++ '\x7d' :: rest)).length := by
      have fewer := length_le_fieldsText ((key, v) :: fields)
      simp only [List.length_cons, List.length_append] at fewer ⊢
      omega
    obtain ⟨after, read⟩ := readFields_written legible [] distinct long (position + 1) rest
    obtain ⟨inner, start⟩ := fieldsText_start (key, v) fields
    refine ⟨after, ?_⟩
    rw [text, List.cons_append, List.append_assoc, List.singleton_append,
      readValue_object depth rfl, readObject]
    rw [start, List.cons_append] at read ⊢
    simp only [Cursor.advance, List.drop_succ_cons, List.drop_zero, skipBlanks_dark quote, read]
    rfl

theorem Legible.read_write {v : Json} (legible : Legible depth v) :
    Json.read depth v.write.toList = .ok v := by
  obtain ⟨c, text, start, dark⟩ := legible.starts
  have first : c ≠ '\ufeff' := by
    have shown := legible.printable c (by simp [start])
    rintro rfl
    exact absurd shown (by decide)
  obtain ⟨after, read⟩ := legible.reads 0 []
  rw [List.append_nil, start] at read
  rw [Json.read, start, if_neg (by simpa using first), skipBlanks_dark dark, read]
  rfl

end Values

end PocketLisp.Json
