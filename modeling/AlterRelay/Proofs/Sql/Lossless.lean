/-
# AlterRelay.Proofs.Sql.Lossless — tokens and gaps make up the source

A token names the stretch of source that it covers by two byte offsets, and holds
the text of that stretch (`StandsIn`). The stretches between the tokens are gaps
(`gapsFrom`). So the offsets cut the source into gaps and tokens by turns: what
stands in a gap is trivia, and put end to end the pieces are the source again
(`tokenize_lossless`). No other character is dropped.

Placing walks over the source. `Reached` says of a position how far the walk has
come, and from it follow what the offset of the position is worth: it lies between
two characters (`Reached.boundary`), and the stretch up to a later position is the
text that was walked over (`Reached.slice`).
-/
import AlterRelay.Proofs.Sql.TriviaForms
import Mathlib.Data.String.Basic

namespace AlterRelay.Sql

set_option autoImplicit false

/-! ## Stretches of a source -/

/-- The text between two byte offsets. -/
def slice (source : String) (start stop : Nat) : String :=
  String.Pos.Raw.extract source ⟨start⟩ ⟨stop⟩

/-- A byte offset that lies between two characters, or at an end. -/
def IsBoundary (source : String) (offset : Nat) : Prop :=
  String.Pos.Raw.IsValid source ⟨offset⟩

theorem Position.offset_after (position : Position) (text : List Char) :
    (position.after text).offset = position.offset + String.utf8Len text := by
  induction text generalizing position with
  | nil => rfl
  | cons c text ih =>
      have here : (position.step c).offset = position.offset + c.utf8Size := by
        unfold Position.step
        split <;> rfl
      rw [Position.after_cons, ih, here, String.utf8Len_cons]
      omega

theorem Position.offset_lt_after (position : Position) {text : List Char} (solid : text ≠ []) :
    position.offset < (position.after text).offset := by
  have wide : String.utf8Len text ≠ 0 := fun empty => solid (String.utf8Len_eq_zero.mp empty)
  rw [offset_after]
  omega

/-- The walk over a source has come to `position`, and `rest` is left of it. -/
def Reached (source : String) (position : Position) (rest : List Char) : Prop :=
  ∃ before, source.toList = before ++ rest ∧ position.offset = String.utf8Len before

namespace Reached

variable {source : String} {position : Position} {text rest : List Char}

theorem start (source : String) : Reached source .start source.toList := ⟨[], rfl, rfl⟩

theorem after (reached : Reached source position (text ++ rest)) :
    Reached source (position.after text) rest := by
  obtain ⟨before, split, offset⟩ := reached
  refine ⟨before ++ text, by rw [split, List.append_assoc], ?_⟩
  rw [Position.offset_after, offset, String.utf8Len_append]

theorem boundary (reached : Reached source position rest) :
    IsBoundary source position.offset := by
  obtain ⟨before, split, offset⟩ := reached
  apply String.Pos.Raw.isValid_iff_exists_append.mpr
  refine ⟨String.ofList before, String.ofList rest, ?_, ?_⟩
  · rw [← String.ofList_append, ← split, String.ofList_toList]
  · rw [String.rawEndPos_ofList, offset]

theorem slice (reached : Reached source position (text ++ rest)) :
    slice source position.offset (position.after text).offset = String.ofList text := by
  obtain ⟨before, split, offset⟩ := reached
  have cut := String.extract_of_valid before text rest
  rw [List.append_assoc, ← split, String.ofList_toList] at cut
  rw [Sql.slice, Position.offset_after, offset]
  exact cut

theorem whole (reached : Reached source position text) :
    (position.after text).offset = source.utf8ByteSize := by
  obtain ⟨before, split, offset⟩ := reached
  have size := String.utf8ByteSize_ofList source.toList
  rw [String.ofList_toList, split, String.utf8Len_append, ← offset] at size
  rw [Position.offset_after, size]

end Reached

/-! ## Tokens and gaps -/

/-- The token covers a stretch of the source, and its text is what stands there. -/
structure StandsIn (source : String) (token : Token) : Prop where
  proper : token.kind ≠ .endOfInput
  solid : token.span.start < token.span.stop
  starts : IsBoundary source token.span.start
  stops : IsBoundary source token.span.stop
  spells : slice source token.span.start token.span.stop = token.text

/-- The end token, at the end of the source. -/
structure EndsSource (source : String) (token : Token) : Prop where
  kind : token.kind = .endOfInput
  text : token.text = ""
  start : token.span.start = source.utf8ByteSize
  stop : token.span.stop = source.utf8ByteSize

/-- What stands in front of each token, from an offset on. -/
def gapsFrom (source : String) (offset : Nat) : List Token → List String
  | [] => []
  | token :: more => slice source offset token.span.start :: gapsFrom source token.span.stop more

/-- Gaps and the tokens behind them by turns. -/
def interleaved (gaps : List String) (tokens : List Token) : String :=
  String.join (List.zipWith (fun gap token => gap ++ token.text) gaps tokens)

theorem trivia_of_segments {text closing : List Char} {pieces : List Segment}
    (cut : segments text = .ok (pieces, closing)) :
    (∀ piece ∈ pieces, IsTrivia false piece.gap) ∧ IsTrivia true closing := by
  refine ⟨fun piece member => ?_, isTrivia_of_gap (gap_closing cut)⟩
  obtain ⟨_, _, _, _, found, -⟩ := isCut_of_segments cut piece member
  exact isTrivia_of_gap found

theorem proper_of_lexeme {c : Char} {rest behind : List Char} {cut : Lexeme}
    (found : lexeme c rest = .ok (cut, behind)) : cut.kind ≠ .endOfInput ∧ cut.raw ≠ [] :=
  ⟨kind_of_lexeme found, (lexeme_append found).2⟩

section

variable {source : String} {position : Position} {closing : List Char}

theorem Reached.cons {piece : Segment} {pieces : List Segment}
    (reached : Reached source position ((piece :: pieces).flatMap Segment.text ++ closing)) :
    Reached source position
      (piece.gap ++ (piece.lexeme.raw ++ (pieces.flatMap Segment.text ++ closing))) := by
  simpa [Segment.text] using reached

theorem standsIn_ofLexeme {cut : Lexeme} {rest : List Char}
    (reached : Reached source position (cut.raw ++ rest)) (proper : cut.kind ≠ .endOfInput)
    (solid : cut.raw ≠ []) : StandsIn source (Token.ofLexeme position cut) where
  proper := proper
  solid := position.offset_lt_after solid
  starts := reached.boundary
  stops := reached.after.boundary
  spells := reached.slice

theorem endsSource_endAt (reached : Reached source position closing) :
    EndsSource source (Token.endAt (position.after closing)) :=
  ⟨rfl, rfl, reached.whole, reached.whole⟩

/-- Placing the pieces of a source makes one token of each that stands where it was cut, and
an end token behind the last gap. -/
theorem place_stands {pieces : List Segment}
    (proper : ∀ piece ∈ pieces, piece.lexeme.kind ≠ .endOfInput ∧ piece.lexeme.raw ≠ [])
    (reached : Reached source position (pieces.flatMap Segment.text ++ closing)) :
    ∃ front last, place position closing pieces = front ++ [last] ∧
      (∀ token ∈ front, StandsIn source token) ∧ EndsSource source last := by
  induction pieces generalizing position with
  | nil => exact ⟨[], _, rfl, by simp, endsSource_endAt reached⟩
  | cons piece pieces ih =>
      obtain ⟨⟨kind, solid⟩, others⟩ := List.forall_mem_cons.mp proper
      have here := reached.cons.after
      obtain ⟨front, last, placed, stands, ends⟩ := ih others here.after
      refine ⟨Token.ofLexeme (position.after piece.gap) piece.lexeme :: front, last, ?_, ?_, ends⟩
      · rw [place, placed]
        rfl
      · exact List.forall_mem_cons.mpr ⟨standsIn_ofLexeme here kind solid, stands⟩

theorem gapsFrom_place {pieces : List Segment}
    (reached : Reached source position (pieces.flatMap Segment.text ++ closing)) :
    gapsFrom source position.offset (place position closing pieces) =
      pieces.map (fun piece => String.ofList piece.gap) ++ [String.ofList closing] := by
  induction pieces generalizing position with
  | nil =>
      have last : Reached source position (closing ++ []) := by simpa using reached
      exact congrArg (fun gap => [gap]) last.slice
  | cons piece pieces ih =>
      have here := reached.cons
      rw [place, gapsFrom]
      exact congrArg₂ List.cons here.slice (ih here.after.after)

end

/-- A token stops where the next one starts, or in front of it. -/
theorem place_apart (position : Position) (closing : List Char) (pieces : List Segment) :
    (∀ token ∈ place position closing pieces, position.offset ≤ token.span.start) ∧
      (place position closing pieces).Pairwise fun a b => a.span.stop ≤ b.span.start := by
  induction pieces generalizing position with
  | nil =>
      constructor
      · intro token member
        rw [place, List.mem_singleton] at member
        subst member
        show position.offset ≤ (position.after closing).offset
        rw [Position.offset_after]
        omega
      · exact List.pairwise_singleton _ _
  | cons piece pieces ih =>
      obtain ⟨reaches, apart⟩ := ih ((position.after piece.gap).after piece.lexeme.raw)
      refine ⟨List.forall_mem_cons.mpr ⟨?_, fun token member => ?_⟩, apart.cons reaches⟩
      · show position.offset ≤ (position.after piece.gap).offset
        rw [Position.offset_after]
        omega
      · have behind := reaches token member
        simp only [Position.offset_after] at behind
        omega

/-- The gaps and the tokens of placed pieces are the pieces, put end to end. -/
theorem interleaved_place (position : Position) (closing : List Char) (pieces : List Segment) :
    interleaved (pieces.map (fun piece => String.ofList piece.gap) ++ [String.ofList closing])
        (place position closing pieces) =
      String.ofList (pieces.flatMap Segment.text ++ closing) := by
  induction pieces generalizing position with
  | nil => simp [interleaved, place, Token.endAt]
  | cons piece pieces ih =>
      have others := ih ((position.after piece.gap).after piece.lexeme.raw)
      unfold interleaved at others ⊢
      rw [place, List.map_cons, List.cons_append, List.zipWith_cons_cons, String.join_cons, others]
      simp only [Segment.text, Token.ofLexeme, List.flatMap_cons, List.append_assoc,
        String.ofList_append, String.append_assoc]

/-! ## Whole sources -/

/-- Tokenizing a source loses nothing. The end token stands at the end and nowhere else, every
other token covers the stretch of source that it spells, one behind the other, and between
them stands nothing but trivia: gaps and tokens by turns are the source. -/
theorem tokenize_lossless {source : String} {tokens : List Token}
    (lexed : tokenize source = .ok tokens) :
    (∃ front last, tokens = front ++ [last] ∧ (∀ token ∈ front, StandsIn source token) ∧
        EndsSource source last) ∧
      tokens.Pairwise (fun a b => a.span.stop ≤ b.span.start) ∧
      (∃ inner closing, gapsFrom source 0 tokens = inner ++ [closing] ∧
        (∀ gap ∈ inner, IsTrivia false gap.toList) ∧ IsTrivia true closing.toList) ∧
      interleaved (gapsFrom source 0 tokens) tokens = source := by
  unfold tokenize at lexed
  split at lexed
  · cases lexed
  · rename_i pieces closing cut
    cases lexed
    have whole := segments_append cut
    have proper := forall_segments cut proper_of_lexeme
    have reached : Reached source .start (pieces.flatMap Segment.text ++ closing) := by
      rw [whole]
      exact Reached.start source
    have gaps : gapsFrom source 0 (place .start closing pieces) = _ := gapsFrom_place reached
    obtain ⟨trivia, last⟩ := trivia_of_segments cut
    refine ⟨place_stands proper reached, (place_apart .start closing pieces).2, ?_, ?_⟩
    · refine ⟨_, _, gaps, ?_, ?_⟩
      · intro gap member
        obtain ⟨piece, among, rfl⟩ := List.mem_map.mp member
        rw [String.toList_ofList]
        exact trivia piece among
      · rw [String.toList_ofList]
        exact last
    · rw [gaps, interleaved_place, whole, String.ofList_toList]

/-- A source with letters of several bytes, a comment between tokens that look like one, and
a comment that its end cuts short. -/
def commentedSource : String := " é/*-*/-# ß\n'ü\n' --"

def commentedTokens : List Token := (tokenize commentedSource).toOption.getD []

theorem tokenize_lossless_commented :
    tokenize commentedSource = .ok commentedTokens ∧
      commentedTokens.map Token.text = ["é", "-", "'ü\n'", ""] ∧
      gapsFrom commentedSource 0 commentedTokens = [" ", "/*-*/", "# ß\n", " --"] ∧
      interleaved (gapsFrom commentedSource 0 commentedTokens) commentedTokens =
        commentedSource := by
  have lexed : tokenize commentedSource = .ok commentedTokens := by decide +kernel
  have texts : commentedTokens.map Token.text = ["é", "-", "'ü\n'", ""] := by decide +kernel
  have gaps : gapsFrom commentedSource 0 commentedTokens = [" ", "/*-*/", "# ß\n", " --"] := by
    decide +kernel
  exact ⟨lexed, texts, gaps, (tokenize_lossless lexed).2.2.2⟩

end AlterRelay.Sql
