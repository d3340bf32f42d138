/-
# AlterRelay.Proofs.Sql.JoinedLines — sources joined by a newline

A newline ends whatever a source has left to end: it goes on with no token, opens no
comment, and closes a line comment. So behind a source that is cut to its end and a
newline, a second source is cut as it is cut alone (`segments_append_newline`), and the
gap between the two is what closed the first, the newline, and what opens the second.

The position behind the newline is the start, moved down and not along. Placing
commutes with such a move (`place_shift`), so tokens and faults of the second source
are those that it has alone, some lines further down (`tokenize_append_newline`).
-/
import AlterRelay.Proofs.Sql.Located

namespace AlterRelay.Sql

open AlterRelay.Text

set_option autoImplicit false

/-! ## Moving down -/

/-- A position some lines further down, at the same column. -/
def Position.shift (bytes lines : Nat) (position : Position) : Position :=
  ⟨position.offset + bytes, position.line + lines, position.column⟩

def Span.shift (bytes lines : Nat) (span : Span) : Span :=
  ⟨span.start + bytes, span.stop + bytes, span.line + lines, span.column⟩

def Token.shift (bytes lines : Nat) (token : Token) : Token :=
  ⟨token.kind, token.span.shift bytes lines, token.text⟩

def LexError.shift (lines : Nat) (error : LexError) : LexError :=
  ⟨error.fault, error.line + lines, error.column⟩

section

variable (bytes lines : Nat) (position : Position)

theorem Position.shift_step (c : Char) :
    (position.shift bytes lines).step c = (position.step c).shift bytes lines := by
  unfold Position.step Position.shift
  split <;> simp [Nat.add_right_comm]

theorem Position.shift_after (text : List Char) :
    (position.shift bytes lines).after text = (position.after text).shift bytes lines := by
  induction text generalizing position with
  | nil => rfl
  | cons c text ih => rw [after_cons, shift_step, ih, after_cons]

theorem Span.shift_of (text : List Char) :
    Span.of (position.shift bytes lines) text = (Span.of position text).shift bytes lines := by
  rw [Span.of, Position.shift_after]
  rfl

/-- What is placed from a position further down is placed further down. -/
theorem place_shift (closing : List Char) (pieces : List Segment) :
    place (position.shift bytes lines) closing pieces =
      (place position closing pieces).map (Token.shift bytes lines) := by
  induction pieces generalizing position with
  | nil =>
      rw [place, Position.shift_after, Token.endAt, Span.shift_of]
      rfl
  | cons piece pieces ih =>
      rw [place, Position.shift_after, Position.shift_after, ih, Token.ofLexeme, Span.shift_of]
      rfl

end

/-- Behind a text and a newline the source begins again, further down. -/
theorem Position.start_after_newline (text : List Char) :
    Position.start.after (text ++ ['\n']) =
      Position.start.shift (String.utf8Len text + 1) (text.count '\n' + 1) := by
  obtain ⟨line, -⟩ := Prod.mk.inj (Position.place_after text)
  have offset := Position.offset_start_after text
  rw [after_append, after_cons, after_nil, step, if_pos rfl, line, offset]
  simp [shift, start, Nat.add_comm, Nat.add_left_comm, Char.utf8Size]

/-! ## Placing what was cut -/

/-- What was cut off a text that begins at `position`, with its places. -/
def placed (position : Position) : CutResult → Except LexError (List Token)
  | .error failure =>
      let here := position.after failure.before
      .error ⟨failure.fault, here.line, here.column⟩
  | .ok (pieces, closing) => .ok (place position closing pieces)

theorem tokenize_eq_placed (source : String) :
    tokenize source = placed .start (segments source.toList) := by
  unfold tokenize placed
  cases segments source.toList <;> rfl

theorem placed_inFront (position : Position) (pieces : List Segment) (result : CutResult) :
    placed position (inFront pieces result) =
      (placed (position.after (pieces.flatMap Segment.text)) result).map
        (placeFront position pieces ++ ·) := by
  rcases result with failure | ⟨more, closing⟩
  · simp only [inFront, placed, LexFailure.behind, Position.after_append]
    rfl
  · rw [inFront, placed, place_append]
    rfl

theorem placed_leading (position : Position) (text : List Char) (result : CutResult) :
    placed position (leading text result) = placed (position.after text) result := by
  rcases result with failure | ⟨_ | ⟨piece, pieces⟩, closing⟩ <;>
    simp only [leading, placed, place, LexFailure.behind, Position.after_append]

theorem placed_shift (bytes lines : Nat) (position : Position) (result : CutResult) :
    placed (position.shift bytes lines) result =
      match placed position result with
      | .error error => .error (error.shift lines)
      | .ok tokens => .ok (tokens.map (Token.shift bytes lines)) := by
  rcases result with failure | ⟨pieces, closing⟩
  · simp only [placed, Position.shift_after]
    rfl
  · simp only [placed, place_shift]

/-! ## A newline between two sources -/

/-- A newline behind trivia ends the line comment among them that is left to end. -/
theorem IsTrivia.append_newline {atEnd : Bool} {text : List Char} (trivia : IsTrivia atEnd text) :
    IsTrivia false (text ++ ['\n']) := by
  induction trivia with
  | nil => exact .blank (by decide) .nil
  | blank blank _ ih => exact .blank blank ih
  | @line opener body more opens within ends _ ih =>
      have newline : (more ++ ['\n']).head? = some '\n' := by
        rcases ends with newline | ⟨-, rfl⟩
        · rw [List.head?_append, newline]
          rfl
        · rfl
      rw [List.append_assoc]
      exact .line opens within (.inl newline) ih
  | @block body more within _ ih =>
      rw [List.append_assoc]
      exact .block within ih

/-- Behind a source and a newline, a second source is cut as it is cut alone. -/
theorem segments_append_newline {first closing : List Char} {pieces : List Segment}
    (cut : segments first = .ok (pieces, closing)) (second : List Char) :
    segments (first ++ '\n' :: second) =
      inFront pieces (leading (closing ++ ['\n']) (segments second)) := by
  have replaces := Replaces.divider (z := '\n') (.of_isBlank (by decide)) closing second
  have whole := ((cutUpTo_of_ok cut).replaced replaces).segments
  have trivia := (trivia_of_segments cut).2.append_newline
  have behind := segments_of_isTrivia trivia second
  rw [List.append_assoc, List.singleton_append] at behind
  rw [← segments_append cut, List.append_assoc, whole, behind]

/-- A source behind another one and a newline has the tokens that it has alone, further down by
the bytes and the lines in front of it, and they follow those of the first source without its
end. Where it has a fault, the two have this fault as many lines further down. -/
theorem tokenize_append_newline {first : String} {tokens : List Token}
    (lexed : tokenize first = .ok tokens) (second : String) :
    tokenize (first ++ "\n" ++ second) =
      match tokenize second with
      | .error error => .error (error.shift (first.toList.count '\n' + 1))
      | .ok more => .ok (tokens.dropLast ++
          more.map (Token.shift (first.utf8ByteSize + 1) (first.toList.count '\n' + 1))) := by
  cases cut : segments first.toList with
  | error failure =>
      rw [tokenize_of_failure cut] at lexed
      cases lexed
  | ok result =>
      obtain ⟨pieces, closing⟩ := result
      rw [tokenize_of_segments cut] at lexed
      cases lexed
      obtain ⟨final, front⟩ := place_eq .start closing pieces
      have joined : (first ++ "\n" ++ second).toList = first.toList ++ '\n' :: second.toList := by
        simp
      have behind : (Position.start.after (pieces.flatMap Segment.text)).after (closing ++ ['\n']) =
          Position.start.shift (first.utf8ByteSize + 1) (first.toList.count '\n' + 1) := by
        rw [← Position.after_append, ← List.append_assoc, segments_append cut,
          Position.start_after_newline, ← String.utf8ByteSize_ofList, String.ofList_toList]
      rw [tokenize_eq_placed, joined, segments_append_newline cut, placed_inFront, placed_leading,
        behind, placed_shift, ← tokenize_eq_placed, front, List.dropLast_concat]
      cases tokenize second <;> rfl

/-- The tokens of a source with a letter of two bytes, and a line comment at its end. -/
def commentedLine : List Token := (tokenize "é\n1. -- x").toOption.getD []

/-- Behind the newline stands a token over two lines, or a fault. -/
theorem tokenize_append_newline_commented :
    tokenize "é\n1. -- x" = .ok commentedLine ∧
      tokenize ("é\n1. -- x" ++ "\n" ++ "'a\nb' c") = .ok (commentedLine.dropLast ++
        [⟨.string "a\nb", ⟨11, 16, 3, 1⟩, "'a\nb'"⟩, ⟨.word, ⟨17, 18, 4, 4⟩, "c"⟩,
          ⟨.endOfInput, ⟨18, 18, 4, 5⟩, ""⟩]) ∧
      tokenize ("é\n1. -- x" ++ "\n" ++ "c\n\\") = .error ⟨.unexpectedChar '\\', 4, 1⟩ := by
  have lexed : tokenize "é\n1. -- x" = .ok commentedLine := by decide +kernel
  have literal : tokenize "'a\nb' c" = .ok [⟨.string "a\nb", ⟨0, 5, 1, 1⟩, "'a\nb'"⟩,
      ⟨.word, ⟨6, 7, 2, 4⟩, "c"⟩, ⟨.endOfInput, ⟨7, 7, 2, 5⟩, ""⟩] := by decide +kernel
  have fault : tokenize "c\n\\" = .error ⟨.unexpectedChar '\\', 2, 1⟩ := by decide +kernel
  have joined := tokenize_append_newline lexed "'a\nb' c"
  have refused := tokenize_append_newline lexed "c\n\\"
  rw [literal] at joined
  rw [fault] at refused
  exact ⟨lexed, joined, refused⟩

end AlterRelay.Sql
