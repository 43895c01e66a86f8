import Mathlib.Data.List.SplitBy
import PocketLisp.Proofs.Joining
import PocketLisp.Proofs.Word

set_option autoImplicit false

namespace PocketLisp

namespace Text

def words (text : List Char) : List (List Char) :=
  (text.splitOnP isBlank).filter (!·.isEmpty)

theorem words_append_blank {blank : Char} (light : isBlank blank = true) (left right : List Char) :
    words (left ++ blank :: right) = words left ++ words right := by
  rw [words, List.splitOnP_append_cons left right light, List.filter_append]
  rfl

theorem words_blank {blank : Char} (light : isBlank blank = true) (text : List Char) :
    words (blank :: text) = words text := by
  rw [← List.nil_append (blank :: text), words_append_blank light]
  rfl

theorem words_dark {text : List Char} (nonempty : text ≠ [])
    (dark : ∀ c ∈ text, isBlank c = false) : words text = [text] := by
  rw [words, List.splitOnP_eq_singleton dark]
  simp [nonempty]

theorem words_append_dark {text rest : List Char} (nonempty : text ≠ [])
    (dark : ∀ c ∈ text, isBlank c = false) (ends : ∀ c ∈ rest.head?, isBlank c = true) :
    words (text ++ rest) = text :: words rest := by
  cases rest with
  | nil =>
    rw [List.append_nil, words_dark nonempty dark]
    rfl
  | cons c rest =>
    have light : isBlank c = true := ends c rfl
    rw [words_append_blank light, words_dark nonempty dark, words_blank light]
    rfl

end Text

namespace Token

def Piece (piece : List Char) : Prop :=
  Word piece ∨ ∃ c, piece = [c] ∧ ¬ Solid c

/-- The text in pieces. No two words are next to each other, so words are as long as can be. -/
structure Pieces (text : List Char) (pieces : List (List Char)) : Prop where
  joined : text = pieces.flatten
  kinds : ∀ piece ∈ pieces, Piece piece
  longest : pieces.IsChain fun left right => ¬ (Word left ∧ Word right)

def ofPieces (pieces : List (List Char)) : List Token :=
  (pieces.filter fun piece => !piece.all Text.isBlank).map fun piece => ofText (String.ofList piece)

def setApart (text : List Char) : List Char :=
  text.flatMap fun c => if (delimiter? c).isSome then [' ', c, ' '] else [c]

section Cutting

def together (a b : Char) : Bool :=
  decide (Solid a) && decide (Solid b)

theorem piece_of_chain {piece : List Char} (nonempty : piece ≠ [])
    (chain : piece.IsChain fun a b => together a b = true) : Piece piece := by
  induction piece with
  | nil => exact absurd rfl nonempty
  | cons a rest ih =>
    cases rest with
    | nil =>
      by_cases solid : Solid a
      · exact .inl ⟨nonempty, by simpa using solid⟩
      · exact .inr ⟨a, rfl, solid⟩
    | cons b rest =>
      obtain ⟨both, later⟩ := List.isChain_cons_cons.mp chain
      have solid : Solid a ∧ Solid b := by simpa [together] using both
      rcases ih (List.cons_ne_nil b rest) later with word | ⟨c, same, hollow⟩
      · exact .inl ⟨nonempty, List.forall_mem_cons.mpr ⟨solid.1, word.solid⟩⟩
      · obtain ⟨rfl, -⟩ := List.cons.inj same
        exact absurd solid.2 hollow

theorem Piece.nonempty {piece : List Char} (is : Piece piece) : piece ≠ [] := by
  rcases is with word | ⟨c, rfl, -⟩
  · exact word.nonempty
  · exact List.cons_ne_nil c []

theorem Piece.chain {piece : List Char} (is : Piece piece) :
    piece.IsChain fun a b => together a b = true := by
  rcases is with word | ⟨c, rfl, -⟩
  · apply List.Pairwise.isChain
    refine List.pairwise_of_forall_mem_list fun a first b second => ?_
    simp [together, word.solid a first, word.solid b second]
  · simp

theorem cut_iff {left right : List Char} (first : Piece left) (second : Piece right) :
    (∃ some more, together (left.getLast some) (right.head more) = false) ↔
      ¬ (Word left ∧ Word right) := by
  constructor
  · rintro ⟨some, more, cut⟩ ⟨before, after⟩
    have last := before.solid _ (List.getLast_mem some)
    have next := after.solid _ (List.head_mem more)
    simp [together, last, next] at cut
  · intro apart
    refine ⟨first.nonempty, second.nonempty, ?_⟩
    -- One of the two is a character that is no part of a word.
    rcases first with before | ⟨c, rfl, hollow⟩
    · rcases second with after | ⟨c, rfl, hollow⟩
      · exact absurd ⟨before, after⟩ apart
      · simp [together, hollow]
    · simp [together, hollow]

theorem pieces_iff {text : List Char} {pieces : List (List Char)} :
    Pieces text pieces ↔ text.splitBy together = pieces := by
  rw [List.splitBy_eq_iff]
  constructor
  · rintro ⟨joined, kinds, longest⟩
    refine ⟨joined, fun empty => (kinds [] empty).nonempty rfl,
      fun piece member => (kinds piece member).chain, ?_⟩
    exact longest.imp_of_mem_imp fun left right first second apart =>
      (cut_iff (kinds left first) (kinds right second)).mpr apart
  · rintro ⟨joined, filled, chains, cuts⟩
    have kinds : ∀ piece ∈ pieces, Piece piece := fun piece member =>
      piece_of_chain (fun empty => filled (empty ▸ member)) (chains piece member)
    refine ⟨joined, kinds, cuts.imp_of_mem_imp fun left right first second cut => ?_⟩
    exact (cut_iff (kinds left first) (kinds right second)).mp cut

end Cutting

section Scanning

variable {text piece : List Char} {pieces : List (List Char)}

theorem Pieces.tail (apart : Pieces text (piece :: pieces)) : Pieces pieces.flatten pieces :=
  ⟨rfl, fun other member => apart.kinds other (List.mem_cons_of_mem piece member),
    apart.longest.tail⟩

theorem Pieces.breaks (apart : Pieces text (piece :: pieces)) (word : Word piece) :
    Breaks pieces.flatten := by
  cases pieces with
  | nil => simp [Breaks]
  | cons next pieces =>
    have other : ¬ (Word piece ∧ Word next) := (List.isChain_cons_cons.mp apart.longest).1
    rcases apart.kinds next (by simp) with after | ⟨c, rfl, hollow⟩
    · exact absurd ⟨word, after⟩ other
    · simpa [Breaks] using hollow

theorem delimiter?_text {c : Char} {token : Token} (delimiter : delimiter? c = some token) :
    Text.isBlank c = false ∧ token.text = String.ofList [c] ∧ ofText (String.ofList [c]) = token ∧
      scanFrom [] [c] = [token] := by
  rcases delimiter?_eq_some delimiter with ⟨rfl, rfl⟩ | ⟨rfl, rfl⟩ | ⟨rfl, rfl⟩ <;> decide

theorem Word.ne_singleton (word : Word piece) {text : String} {c : Char} (lone : text.toList = [c])
    (hollow : ¬ Solid c) : String.ofList piece ≠ text := by
  rintro rfl
  rw [String.toList_ofList] at lone
  exact hollow (word.solid c (by simp [lone]))

theorem Word.ofText_eq (word : Word piece) :
    Token.ofText (String.ofList piece) = .word (String.ofList piece) := by
  rw [Token.ofText, if_neg (word.ne_singleton (c := '(') rfl (by decide)),
    if_neg (word.ne_singleton (c := ')') rfl (by decide)),
    if_neg (word.ne_singleton (c := '\'') rfl (by decide))]

theorem Word.not_blank (word : Word piece) : piece.all Text.isBlank = false := by
  obtain ⟨c, rest, rfl⟩ := List.exists_cons_of_ne_nil word.nonempty
  simp [(word.solid c List.mem_cons_self).2]

theorem ofPieces_cons (piece : List Char) (pieces : List (List Char)) :
    ofPieces (piece :: pieces) =
      if piece.all Text.isBlank then ofPieces pieces
      else ofText (String.ofList piece) :: ofPieces pieces := by
  cases blank : piece.all Text.isBlank <;> simp [ofPieces, blank]

-- What holds of text and its tokens however the text goes on: nothing, a blank, a delimiter or a
-- word that breaks off.
theorem Pieces.induction {motive : List Char → List Token → Prop} (apart : Pieces text pieces)
    (nil : motive [] [])
    (blank : ∀ c rest tokens, Text.isBlank c = true → motive rest tokens →
      motive (c :: rest) tokens)
    (delimiter : ∀ c token rest tokens, delimiter? c = some token → motive rest tokens →
      motive (c :: rest) (token :: tokens))
    (word : ∀ piece rest tokens, Word piece → Breaks rest → motive rest tokens →
      motive (piece ++ rest) (.word (String.ofList piece) :: tokens)) :
    motive text (ofPieces pieces) := by
  induction pieces generalizing text with
  | nil =>
    rw [apart.joined]
    exact nil
  | cons piece pieces ih =>
    have later := ih apart.tail
    rw [apart.joined, List.flatten_cons, ofPieces_cons]
    rcases apart.kinds piece List.mem_cons_self with whole | ⟨c, rfl, hollow⟩
    · rw [if_neg (by simp [whole.not_blank]), whole.ofText_eq]
      exact word piece _ _ whole (apart.breaks whole) later
    · cases kind : delimiter? c with
      | some token =>
        obtain ⟨dark, -, same, -⟩ := delimiter?_text kind
        rw [if_neg (by simp [dark]), same]
        exact delimiter c token _ _ kind later
      | none =>
        have light : Text.isBlank c = true := by simpa [Solid, kind] using hollow
        rw [if_pos (by simp [light])]
        exact blank c _ _ light later

theorem Pieces.scanFrom_eq (apart : Pieces text pieces) : scanFrom [] text = ofPieces pieces := by
  refine apart.induction (motive := fun text tokens => Token.scanFrom [] text = tokens) rfl ?_ ?_ ?_
  · intro c rest tokens light same
    simpa [Token.scanFrom, delimiter?_blank light, light, pending] using same
  · intro c token rest tokens kind same
    simpa [Token.scanFrom, kind, pending] using same
  · intro piece rest tokens whole breaks same
    rw [scanFrom_word whole breaks, same]

theorem setApart_word (word : Word piece) (rest : List Char) :
    setApart (piece ++ rest) = piece ++ setApart rest := by
  have kept : piece.flatMap (fun c => if (delimiter? c).isSome then [' ', c, ' '] else [c]) =
      piece.flatMap fun c => [c] :=
    List.flatMap_congr fun c member => by simp [(word.solid c member).1]
  rw [setApart, List.flatMap_append, kept, List.flatMap_singleton']
  rfl

theorem setApart_breaks {rest : List Char} (breaks : Breaks rest) :
    ∀ c ∈ (setApart rest).head?, Text.isBlank c = true := by
  cases rest with
  | nil => simp [setApart]
  | cons d rest =>
    have hollow : ¬ Solid d := breaks d rfl
    cases kind : delimiter? d with
    | some token =>
      have space : Text.isBlank ' ' = true := by decide
      simp [setApart, kind, space]
    | none =>
      have light : Text.isBlank d = true := by simpa [Solid, kind] using hollow
      simp [setApart, kind, light]

theorem Pieces.words_setApart (apart : Pieces text pieces) :
    Text.words (setApart text) = (ofPieces pieces).map fun token => token.text.toList := by
  refine apart.induction (motive := fun text tokens =>
    Text.words (setApart text) = tokens.map fun token => token.text.toList) rfl ?_ ?_ ?_
  · intro c rest tokens light same
    have plain : setApart (c :: rest) = c :: setApart rest := by
      simp [setApart, delimiter?_blank light]
    rw [plain, Text.words_blank light, same]
  · intro c token rest tokens kind same
    obtain ⟨dark, shown, -⟩ := delimiter?_text kind
    have padded : setApart (c :: rest) = ' ' :: ([c] ++ ' ' :: setApart rest) := by
      simp [setApart, kind]
    rw [padded, Text.words_blank (by decide), Text.words_append_blank (by decide),
      Text.words_dark (by simp) (by simpa using dark), same]
    simp [shown]
  · intro piece rest tokens whole breaks same
    have dark : ∀ c ∈ piece, Text.isBlank c = false := fun c member => (whole.solid c member).2
    rw [setApart_word whole,
      Text.words_append_dark whole.nonempty dark (setApart_breaks breaks), same, List.map_cons,
      Token.text, String.toList_ofList]

theorem Pieces.tokens_solid (apart : Pieces text pieces) :
    ∀ token ∈ ofPieces pieces, token.text.toList ≠ [] ∧
      (∀ c ∈ token.text.toList, Text.isBlank c = false) ∧ scan token.text = [token] := by
  refine apart.induction (motive := fun _ tokens => ∀ token ∈ tokens, token.text.toList ≠ [] ∧
    (∀ c ∈ token.text.toList, Text.isBlank c = false) ∧ scan token.text = [token]) nofun ?_ ?_ ?_
  · intro c rest tokens _ all
    exact all
  · intro c token rest tokens kind all
    obtain ⟨dark, shown, -, alone⟩ := delimiter?_text kind
    refine List.forall_mem_cons.mpr ⟨?_, all⟩
    rw [scan, shown, String.toList_ofList]
    exact ⟨by simp, by simpa using dark, alone⟩
  · intro piece rest tokens whole _ all
    refine List.forall_mem_cons.mpr ⟨?_, all⟩
    have alone : scanFrom [] (piece ++ []) = [.word (String.ofList piece)] :=
      scanFrom_word whole (by simp [Breaks])
    rw [List.append_nil] at alone
    rw [scan, Token.text, String.toList_ofList]
    exact ⟨whole.nonempty, fun c member => (whole.solid c member).2, alone⟩

theorem Pieces.texts (apart : Pieces text pieces) :
    (ofPieces pieces).flatMap (fun token => token.text.toList) =
      text.filter fun c => !Text.isBlank c := by
  refine apart.induction (motive := fun text tokens =>
    tokens.flatMap (fun token => token.text.toList) = text.filter fun c => !Text.isBlank c)
    rfl ?_ ?_ ?_
  · intro c rest tokens light same
    simpa [light] using same
  · intro c token rest tokens kind same
    obtain ⟨dark, shown, -⟩ := delimiter?_text kind
    simp [dark, shown, same]
  · intro piece rest tokens whole _ same
    have kept : piece.filter (fun c => !Text.isBlank c) = piece := by
      rw [List.filter_eq_self]
      intro c member
      simp [(whole.solid c member).2]
    have shown : (Token.word (String.ofList piece)).text = String.ofList piece := rfl
    simp [shown, same, kept]

end Scanning

theorem scan_intercalate {tokens : List Token}
    (alone : ∀ token ∈ tokens, scan token.text = [token]) :
    scan (" ".intercalate (tokens.map text)) = tokens := by
  induction tokens with
  | nil => rfl
  | cons token tokens ih =>
    obtain ⟨first, others⟩ := List.forall_mem_cons.mp alone
    cases tokens with
    | nil => simpa using first
    | cons next tokens =>
      rw [List.map_cons, String.intercalate_cons_of_ne_nil (by simp), scan_join, first, ih others]
      rfl

/-- A text is scanned into the tokens of its pieces, in order: its delimiters and its longest runs
of other characters that are not blank. The same tokens come from setting the delimiters apart and
splitting at blanks. So no token is empty or has a blank in it, all of them together are the text
without its blanks, and scanned again with spaces between them they are what they were. -/
theorem scan_pieces (source : String) :
    (∃ pieces, Pieces source.toList pieces ∧
      (∀ others, Pieces source.toList others → others = pieces) ∧
      scan source = ofPieces pieces) ∧
    (scan source).map text = (Text.words (setApart source.toList)).map String.ofList ∧
    (∀ token ∈ scan source, token.text ≠ "" ∧ ∀ c ∈ token.text.toList, Text.isBlank c = false) ∧
    String.join ((scan source).map text) =
      String.ofList (source.toList.filter fun c => !Text.isBlank c) ∧
    scan (" ".intercalate ((scan source).map text)) = scan source := by
  obtain ⟨pieces, apart⟩ : ∃ pieces, Pieces source.toList pieces := ⟨_, pieces_iff.mpr rfl⟩
  have same : scan source = ofPieces pieces := apart.scanFrom_eq
  have solid := apart.tokens_solid
  rw [same]
  refine ⟨⟨pieces, apart, fun others other => ?_, rfl⟩, ?_, fun token member => ?_, ?_, ?_⟩
  · exact (pieces_iff.mp other).symm.trans (pieces_iff.mp apart)
  · rw [apart.words_setApart, List.map_map]
    refine List.map_congr_left fun token _ => ?_
    exact (String.ofList_toList).symm
  · obtain ⟨filled, dark, -⟩ := solid token member
    refine ⟨?_, dark⟩
    rintro empty
    exact filled (by simp [empty])
  · rw [← apart.texts, ← String.toList_inj, String.toList_join, List.flatMap_map,
      String.toList_ofList]
  · exact scan_intercalate fun token member => (solid token member).2.2

theorem scan_pieces_mixed :
    let source := "(a'bc )"
    let parts := [['('], ['a'], ['\''], ['b', 'c'], [' '], [')']]
    Pieces source.toList parts ∧ scan source = ofPieces parts ∧ .word "bc" ∈ scan source ∧
      (word "bc").text ≠ "" ∧ (∀ c ∈ (word "bc").text.toList, Text.isBlank c = false) ∧
      String.join ((scan source).map text) =
        String.ofList (source.toList.filter fun c => !Text.isBlank c) ∧
      scan (" ".intercalate ((scan source).map text)) = scan source := by
  intro source parts
  obtain ⟨⟨pieces, -, only, same⟩, -, solid, joined, again⟩ := scan_pieces source
  have apart : Pieces source.toList parts := pieces_iff.mpr (by decide)
  have member : .word "bc" ∈ scan source := by decide
  rw [← only parts apart] at same
  exact ⟨apart, same, member, (solid _ member).1, (solid _ member).2, joined, again⟩

end Token

end PocketLisp
