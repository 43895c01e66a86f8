import PocketLisp.Proofs.JsonScalar

set_option autoImplicit false

namespace PocketLisp.Json

section Containers

variable {value : Cursor → Except Fault (Json × Cursor)}

inductive ItemOf (value : Cursor → Except Fault (Json × Cursor)) : Cursor → Cursor → Prop
  | first (cursor : Cursor) : ItemOf value cursor cursor
  | later {cursor after item : Cursor} {v : Json} {text : List Char}
      (read : value cursor = .ok (v, after)) (comma : after.skipBlanks.rest = ',' :: text)
      (among : ItemOf value (after.skipBlanks.advance 1).skipBlanks item) :
      ItemOf value cursor item

inductive FieldOf (value : Cursor → Except Fault (Json × Cursor)) : Cursor → Cursor → Prop
  | first {cursor place : Cursor} {key : String} (named : readKey cursor = .ok (key, place)) :
      FieldOf value cursor place
  | later {cursor place after field : Cursor} {key : String} {v : Json} {text : List Char}
      (named : readKey cursor = .ok (key, place)) (read : value place = .ok (v, after))
      (comma : after.skipBlanks.rest = ',' :: text)
      (among : FieldOf value (after.skipBlanks.advance 1).skipBlanks field) :
      FieldOf value cursor field

theorem bind_eq_error {α β : Type} {m : Except Fault α} {next : α → Except Fault β}
    {fault : Fault} :
    (m >>= next) = .error fault ↔ m = .error fault ∨ ∃ a, m = .ok a ∧ next a = .error fault := by
  cases m with
  | ok a => simp [bind, Except.bind]
  | error e => simp [bind, Except.bind]

theorem bind_done_eq_error {α β : Type} (m : Except Fault α) (done : α → β) {fault : Fault} :
    (m >>= fun a => .ok (done a)) = .error fault ↔ m = .error fault := by
  simp [bind_eq_error]

section Steps

variable {b : Char} {bound : List Char} {cursor : Cursor} {fault : Fault} (limit : fault.IsLimit)

include limit

theorem readItems_cons_eq_error :
    readItems value (b :: bound) cursor = .error fault ↔
      value cursor = .error fault ∨ ∃ v after text, value cursor = .ok (v, after) ∧
        after.skipBlanks.rest = ',' :: text ∧
        readItems value bound (after.skipBlanks.advance 1).skipBlanks = .error fault := by
  rw [readItems, bind_eq_error]
  refine or_congr Iff.rfl ⟨?_, ?_⟩
  · rintro ⟨⟨v, after⟩, read, failed⟩
    dsimp only at failed
    split at failed
    · cases failed
    · next text comma =>
      rcases bind_eq_error.mp failed with inside | ⟨_, _, done⟩
      · exact ⟨v, after, text, read, comma, inside⟩
      · cases done
    · cases failed
      exact limit.elim
  · rintro ⟨v, after, text, read, comma, failed⟩
    refine ⟨(v, after), read, ?_⟩
    dsimp only
    rw [comma]
    exact bind_eq_error.mpr (.inl failed)

theorem readFields_cons_eq_error {fields : List (String × Json)} :
    readFields value (b :: bound) fields cursor = .error fault ↔
      ∃ key place, readKey cursor = .ok (key, place) ∧
        (value place = .error fault ∨ ∃ v after text, value place = .ok (v, after) ∧
          after.skipBlanks.rest = ',' :: text ∧
          readFields value bound (put key v fields) (after.skipBlanks.advance 1).skipBlanks =
            .error fault) := by
  rw [readFields]
  constructor
  · intro failed
    rcases bind_eq_error.mp failed with wrong | ⟨⟨key, place⟩, named, failed⟩
    · -- A field name is found or the text is malformed.
      have plain := readKey_plain cursor
      rw [wrong] at plain
      exact absurd limit plain
    · refine ⟨key, place, named, ?_⟩
      rcases bind_eq_error.mp failed with inside | ⟨⟨v, after⟩, read, failed⟩
      · exact .inl inside
      · dsimp only at failed
        split at failed
        · cases failed
        · next text comma => exact .inr ⟨v, after, text, read, comma, failed⟩
        · cases failed
          exact limit.elim
  · rintro ⟨key, place, named, inside | ⟨v, after, text, read, comma, failed⟩⟩
    · exact bind_eq_error.mpr (.inr ⟨_, named, bind_eq_error.mpr (.inl inside)⟩)
    · refine bind_eq_error.mpr (.inr ⟨_, named, bind_eq_error.mpr (.inr ⟨_, read, ?_⟩)⟩)
      dsimp only
      rw [comma]
      exact failed

end Steps

-- Every item and every field takes a comma at least, so the bound of a loop never runs out.
variable (shortens : ∀ cursor, Within (fun _ => True) cursor.rest (value cursor))

include shortens

theorem past_comma {cursor after : Cursor} {v : Json} {text : List Char}
    (read : value cursor = .ok (v, after)) (comma : after.skipBlanks.rest = ',' :: text) :
    (after.skipBlanks.advance 1).skipBlanks.rest.length < cursor.rest.length := by
  have shorter := shortens cursor
  rw [read] at shorter
  have left : after.rest.length ≤ cursor.rest.length := shorter
  have blanks := skipBlanks_le after
  have more := skipBlanks_le (after.skipBlanks.advance 1)
  rw [rest_advance, comma] at more
  rw [comma] at blanks
  simp at more blanks
  omega

theorem readItems_eq_error {fault : Fault} (limit : fault.IsLimit) {bound : List Char}
    {cursor : Cursor} (enough : cursor.rest.length < bound.length) :
    readItems value bound cursor = .error fault ↔
      ∃ item, ItemOf value cursor item ∧ value item = .error fault := by
  induction bound generalizing cursor with
  | nil => simp at enough
  | cons b bound ih =>
    rw [readItems_cons_eq_error limit]
    constructor
    · rintro (failed | ⟨v, after, text, read, comma, failed⟩)
      · exact ⟨cursor, .first cursor, failed⟩
      · have shorter := past_comma shortens read comma
        obtain ⟨item, among, failed⟩ := (ih (by simp at enough; omega)).mp failed
        exact ⟨item, .later read comma among, failed⟩
    · rintro ⟨item, among, failed⟩
      cases among with
      | first => exact .inl failed
      | later read comma among =>
        have shorter := past_comma shortens read comma
        have inside := (ih (by simp at enough; omega)).mpr ⟨item, among, failed⟩
        exact .inr ⟨_, _, _, read, comma, inside⟩

theorem past_field {cursor place after : Cursor} {key : String} {v : Json} {text : List Char}
    (named : readKey cursor = .ok (key, place)) (read : value place = .ok (v, after))
    (comma : after.skipBlanks.rest = ',' :: text) :
    (after.skipBlanks.advance 1).skipBlanks.rest.length < cursor.rest.length := by
  have plain := readKey_plain cursor
  rw [named] at plain
  exact Nat.lt_of_lt_of_le (past_comma shortens read comma) plain

theorem readFields_eq_error {fault : Fault} (limit : fault.IsLimit) {bound : List Char}
    {cursor : Cursor} (enough : cursor.rest.length < bound.length)
    (fields : List (String × Json)) :
    readFields value bound fields cursor = .error fault ↔
      ∃ field, FieldOf value cursor field ∧ value field = .error fault := by
  induction bound generalizing cursor fields with
  | nil => simp at enough
  | cons b bound ih =>
    rw [readFields_cons_eq_error limit]
    constructor
    · rintro ⟨key, place, named, failed | ⟨v, after, text, read, comma, failed⟩⟩
      · exact ⟨place, .first named, failed⟩
      · have shorter := past_field shortens named read comma
        obtain ⟨field, among, failed⟩ := (ih (by simp at enough; omega) _).mp failed
        exact ⟨field, .later named read comma among, failed⟩
    · rintro ⟨field, among, failed⟩
      cases among with
      | first named => exact ⟨_, _, named, .inl failed⟩
      | later named read comma among =>
        have shorter := past_field shortens named read comma
        refine ⟨_, _, named, .inr ⟨_, _, _, read, comma, ?_⟩⟩
        exact (ih (by simp at enough; omega) _).mpr ⟨field, among, failed⟩

section Whole

variable {cursor : Cursor} {text : List Char}

omit shortens in
theorem inside_shorter {mark : Char} (opens : cursor.rest = mark :: text) :
    (cursor.advance 1).skipBlanks.rest.length < cursor.rest.length := by
  have blanks := skipBlanks_le (cursor.advance 1)
  simp [opens] at blanks ⊢
  omega

theorem readArray_eq_error {fault : Fault} (limit : fault.IsLimit)
    (opens : cursor.rest = '[' :: text) :
    readArray value cursor = .error fault ↔
      (cursor.advance 1).skipBlanks.rest.head? ≠ some ']' ∧
        ∃ item, ItemOf value (cursor.advance 1).skipBlanks item ∧ value item = .error fault := by
  rw [← readItems_eq_error shortens limit (inside_shorter opens)]
  unfold readArray
  dsimp only
  split
  · next closed => simp [closed]
  · next other =>
    have some : (cursor.advance 1).skipBlanks.rest.head? ≠ some ']' := by
      intro closed
      obtain ⟨rest, start⟩ := List.head?_eq_some_iff.mp closed
      exact other rest start
    exact Iff.trans (bind_done_eq_error _ _) (and_iff_right some).symm

theorem readObject_eq_error {fault : Fault} (limit : fault.IsLimit)
    (opens : cursor.rest = '\x7b' :: text) :
    readObject value cursor = .error fault ↔
      ∃ field, FieldOf value (cursor.advance 1).skipBlanks field ∧ value field = .error fault := by
  unfold readObject
  dsimp only
  split
  · next closed =>
    -- No field name starts with the mark that closes the object.
    have unnamed : readKey (cursor.advance 1).skipBlanks =
        (cursor.advance 1).skipBlanks.fail .propertyName := by
      rw [readKey, closed]
      rfl
    refine ⟨(nomatch ·), ?_⟩
    rintro ⟨field, among, -⟩
    cases among with
    | first named | later named =>
      rw [unnamed] at named
      cases named
  · rw [← readFields_eq_error shortens limit (inside_shorter opens) []]
    exact bind_done_eq_error _ _

theorem readItems_within (bound : List Char) (cursor : Cursor) :
    Within (fun _ => True) cursor.rest (readItems value bound cursor) := by
  induction bound generalizing cursor with
  | nil => trivial
  | cons b bound ih =>
    refine (shortens cursor).bind fun v after => ?_
    have blanks := skipBlanks_le after
    dsimp only
    split
    · exact Nat.le_trans (by simp) blanks
    · have more := skipBlanks_le (after.skipBlanks.advance 1)
      refine Within.longer (.bind (ih _) fun _ _ => Nat.le_refl _) ?_
      exact Nat.le_trans more (Nat.le_trans (by simp) blanks)
    · trivial

theorem readFields_within (bound : List Char) (fields : List (String × Json)) (cursor : Cursor) :
    Within (fun _ => True) cursor.rest (readFields value bound fields cursor) := by
  induction bound generalizing cursor fields with
  | nil => trivial
  | cons b bound ih =>
    have named : Within (fun _ => True) cursor.rest (readKey cursor) :=
      (readKey_plain cursor).weaken (fun _ => id) fun _ _ => trivial
    refine named.bind fun key place => (shortens place).bind fun v after => ?_
    have blanks := skipBlanks_le after
    dsimp only
    split
    · exact Nat.le_trans (by simp) blanks
    · have more := skipBlanks_le (after.skipBlanks.advance 1)
      exact (ih _ _).longer (Nat.le_trans more (Nat.le_trans (by simp) blanks))
    · trivial

theorem readArray_within (cursor : Cursor) :
    Within (fun _ => True) cursor.rest (readArray value cursor) := by
  have blanks := skipBlanks_le (cursor.advance 1)
  have shorter : (cursor.advance 1).skipBlanks.rest.length ≤ cursor.rest.length :=
    Nat.le_trans blanks (by simp)
  unfold readArray
  dsimp only
  split
  · exact Nat.le_trans (by simp) shorter
  · exact Within.longer (.bind (readItems_within shortens _ _) fun _ _ => Nat.le_refl _) shorter

theorem readObject_within (cursor : Cursor) :
    Within (fun _ => True) cursor.rest (readObject value cursor) := by
  have blanks := skipBlanks_le (cursor.advance 1)
  have shorter : (cursor.advance 1).skipBlanks.rest.length ≤ cursor.rest.length :=
    Nat.le_trans blanks (by simp)
  unfold readObject
  dsimp only
  split
  · exact Nat.le_trans (by simp) shorter
  · exact Within.longer (.bind (readFields_within shortens _ _ _) fun _ _ => Nat.le_refl _) shorter

end Whole

end Containers

inductive Starts (cursor : Cursor) : Prop
  | array {text : List Char} (opens : cursor.rest = '[' :: text)
  | object {text : List Char} (opens : cursor.rest = '\x7b' :: text)
  | scalar (other : ∀ text, cursor.rest ≠ '[' :: text ∧ cursor.rest ≠ '\x7b' :: text)

theorem starts (cursor : Cursor) : Starts cursor := by
  by_cases array : ∃ text, cursor.rest = '[' :: text
  · obtain ⟨text, opens⟩ := array
    exact .array opens
  · by_cases object : ∃ text, cursor.rest = '\x7b' :: text
    · obtain ⟨text, opens⟩ := object
      exact .object opens
    · refine .scalar fun text => ⟨fun opens => ?_, fun opens => ?_⟩
      · exact array ⟨text, opens⟩
      · exact object ⟨text, opens⟩

section Values

variable {cursor : Cursor} {text : List Char}

theorem readValue_array (depth : Nat) (opens : cursor.rest = '[' :: text) :
    readValue (depth + 1) cursor = readArray (readValue depth) cursor := by
  rw [readValue, opens]
  rfl

theorem readValue_object (depth : Nat) (opens : cursor.rest = '\x7b' :: text) :
    readValue (depth + 1) cursor = readObject (readValue depth) cursor := by
  rw [readValue, opens]
  rfl

theorem readValue_deep {mark : Char} (opens : cursor.rest = mark :: text)
    (container : mark = '[' ∨ mark = '\x7b') : readValue 0 cursor = .error .tooDeep := by
  rw [readValue, opens]
  rcases container with rfl | rfl <;> rfl

theorem readValue_scalar (depth : Nat)
    (other : ∀ text, cursor.rest ≠ '[' :: text ∧ cursor.rest ≠ '\x7b' :: text) :
    readValue depth cursor = readScalar cursor := by
  cases depth with
  | zero | succ depth =>
    rw [readValue]
    split
    · next opens => exact absurd opens (other _).1
    · next opens => exact absurd opens (other _).2
    · rfl

end Values

theorem readScalar_within (cursor : Cursor) :
    Within (fun _ => True) cursor.rest (readScalar cursor) :=
  (readScalar_scalar cursor).weaken (fun _ => id) fun _ _ => trivial

theorem readValue_within (depth : Nat) :
    ∀ cursor, Within (fun _ => True) cursor.rest (readValue depth cursor) := by
  induction depth with
  | zero =>
    intro cursor
    cases starts cursor with
    | array opens => exact readValue_deep opens (.inl rfl) ▸ trivial
    | object opens => exact readValue_deep opens (.inr rfl) ▸ trivial
    | scalar other => exact readValue_scalar 0 other ▸ readScalar_within cursor
  | succ depth ih =>
    intro cursor
    cases starts cursor with
    | array opens => exact readValue_array depth opens ▸ readArray_within ih cursor
    | object opens => exact readValue_object depth opens ▸ readObject_within ih cursor
    | scalar other => exact readValue_scalar _ other ▸ readScalar_within cursor

/-- Reading the value at a cursor, which may nest `depth` deep, comes to the value at `place`, which
may nest `left` deep. -/
inductive Reaches : (depth : Nat) → Cursor → (left : Nat) → (place : Cursor) → Prop
  | here (depth : Nat) (cursor : Cursor) : Reaches depth cursor depth cursor
  | item {depth left : Nat} {cursor item place : Cursor} {text : List Char}
      (opens : cursor.rest = '[' :: text)
      (nonempty : (cursor.advance 1).skipBlanks.rest.head? ≠ some ']')
      (among : ItemOf (readValue depth) (cursor.advance 1).skipBlanks item)
      (inside : Reaches depth item left place) : Reaches (depth + 1) cursor left place
  | field {depth left : Nat} {cursor field place : Cursor} {text : List Char}
      (opens : cursor.rest = '\x7b' :: text)
      (among : FieldOf (readValue depth) (cursor.advance 1).skipBlanks field)
      (inside : Reaches depth field left place) : Reaches (depth + 1) cursor left place

inductive Excessive : (left : Nat) → List Char → Fault → Prop
  | deep {mark : Char} {text : List Char} (container : mark = '[' ∨ mark = '\x7b') :
      Excessive 0 (mark :: text) .tooDeep
  | long {left count : Nat} {text : List Char} (long : LongInteger text count) :
      Excessive left text (.longInteger count)

theorem LongInteger.scalar {text : List Char} {count : Nat} (long : LongInteger text count) :
    ∀ rest, text ≠ '[' :: rest ∧ text ≠ '\x7b' :: rest := by
  intro rest
  obtain ⟨d, more, digit, start⟩ := long.head
  constructor
  all_goals
    rintro rfl
    rcases start with start | start
    · rw [← (List.cons.inj start).1] at digit
      exact absurd digit (by decide)
    · exact absurd (List.cons.inj start).1 (by decide)

theorem Excessive.readValue {left : Nat} {cursor : Cursor} {fault : Fault}
    (excessive : Excessive left cursor.rest fault) :
    Json.readValue left cursor = .error fault := by
  generalize start : cursor.rest = text at excessive
  cases excessive with
  | deep container => exact readValue_deep start container
  | long long =>
    subst start
    rw [readValue_scalar _ long.scalar, readScalar_long long]

theorem Excessive.limit {left : Nat} {text : List Char} {fault : Fault}
    (excessive : Excessive left text fault) : fault.IsLimit := by
  cases excessive <;> trivial

theorem Reaches.readValue {depth left : Nat} {cursor place : Cursor} {fault : Fault}
    (reaches : Reaches depth cursor left place) (excessive : Excessive left place.rest fault) :
    Json.readValue depth cursor = .error fault := by
  have limit := excessive.limit
  induction reaches with
  | here => exact excessive.readValue
  | item opens nonempty among _ ih =>
    rw [readValue_array _ opens, readArray_eq_error (readValue_within _) limit opens]
    exact ⟨nonempty, _, among, ih excessive⟩
  | field opens among _ ih =>
    rw [readValue_object _ opens, readObject_eq_error (readValue_within _) limit opens]
    exact ⟨_, among, ih excessive⟩

theorem readScalar_excessive {cursor : Cursor} {fault : Fault} (limit : fault.IsLimit)
    (failed : readScalar cursor = .error fault) (left : Nat) :
    Excessive left cursor.rest fault := by
  have scalar := readScalar_scalar cursor
  rw [failed] at scalar
  obtain ⟨count, rfl, long⟩ := scalar limit
  exact .long long

theorem readValue_reaches {depth : Nat} {cursor : Cursor} {fault : Fault} (limit : fault.IsLimit)
    (failed : readValue depth cursor = .error fault) :
    ∃ left place, Reaches depth cursor left place ∧ Excessive left place.rest fault := by
  induction depth generalizing cursor with
  | zero =>
    refine ⟨0, cursor, .here 0 cursor, ?_⟩
    cases starts cursor with
    | array opens =>
      obtain rfl := Except.error.inj ((readValue_deep opens (.inl rfl)).symm.trans failed)
      exact opens ▸ .deep (.inl rfl)
    | object opens =>
      obtain rfl := Except.error.inj ((readValue_deep opens (.inr rfl)).symm.trans failed)
      exact opens ▸ .deep (.inr rfl)
    | scalar other => exact readScalar_excessive limit (readValue_scalar 0 other ▸ failed) 0
  | succ depth ih =>
    cases starts cursor with
    | array opens =>
      rw [readValue_array _ opens, readArray_eq_error (readValue_within _) limit opens] at failed
      obtain ⟨nonempty, item, among, failed⟩ := failed
      obtain ⟨left, place, inside, excessive⟩ := ih failed
      exact ⟨left, place, .item opens nonempty among inside, excessive⟩
    | object opens =>
      rw [readValue_object _ opens, readObject_eq_error (readValue_within _) limit opens] at failed
      obtain ⟨field, among, failed⟩ := failed
      obtain ⟨left, place, inside, excessive⟩ := ih failed
      exact ⟨left, place, .field opens among inside, excessive⟩
    | scalar other =>
      refine ⟨_, cursor, .here _ cursor, ?_⟩
      exact readScalar_excessive limit (readValue_scalar _ other ▸ failed) _

def Exceeds (depth : Nat) (text : List Char) (fault : Fault) : Prop :=
  text.head? ≠ some '\ufeff' ∧
    ∃ left place, Reaches depth (Cursor.skipBlanks ⟨0, text⟩) left place ∧
      Excessive left place.rest fault

theorem read_eq_error_iff {depth : Nat} {text : List Char} {fault : Fault} (limit : fault.IsLimit) :
    read depth text = .error fault ↔ Exceeds depth text fault := by
  unfold read Exceeds
  split
  · next mark =>
    refine ⟨fun failed => ?_, fun exceeds => absurd mark exceeds.1⟩
    cases failed
    exact limit.elim
  · next unmarked =>
    rw [and_iff_right unmarked]
    constructor
    · intro failed
      rcases bind_eq_error.mp failed with failed | ⟨⟨v, after⟩, -, failed⟩
      · exact readValue_reaches limit failed
      · -- What is left after the value makes the text malformed.
        dsimp only at failed
        split at failed
        · cases failed
        · cases failed
          exact limit.elim
    · rintro ⟨left, place, reaches, excessive⟩
      exact bind_eq_error.mpr (.inl (reaches.readValue excessive))

end PocketLisp.Json
