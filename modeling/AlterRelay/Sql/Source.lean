/-
# AlterRelay.Sql.Source — a source text as tokens

Tokenizing goes in two steps. `segments` cuts the characters into gaps and
lexemes without looking at places: every lexeme comes with the gap in front of
it, and the last gap stands apart. `place` then walks over the pieces and gives
every token its span. A fault is told with all the text in front of it, so its
line and column are read off the same way.

`segments_append`: the pieces, put end to end, are the source.
-/
import AlterRelay.Sql.Lexeme
import AlterRelay.Sql.Trivia

namespace AlterRelay.Sql

set_option autoImplicit false

/-! ## Cutting -/

structure Segment where
  gap : List Char
  lexeme : Lexeme

def Segment.text (segment : Segment) : List Char := segment.gap ++ segment.lexeme.raw

/-- A fault, with the source text in front of the character it is found at. -/
structure LexFailure where
  before : List Char
  fault : LexFault

def LexFailure.behind (failure : LexFailure) (text : List Char) : LexFailure :=
  ⟨text ++ failure.before, failure.fault⟩

/-- The source cut up, and the gap at its end. -/
def segments (text : List Char) : Except LexFailure (List Segment × List Char) :=
  match _found : gap text with
  | .error before => .error ⟨before, .unterminated .blockComment⟩
  | .ok (skipped, []) => .ok ([], skipped)
  | .ok (skipped, c :: rest) =>
      match _cut : lexeme c rest with
      | .error fault => .error ⟨skipped, fault⟩
      | .ok (cut, behind) =>
          match segments behind with
          | .error failure => .error (failure.behind (skipped ++ cut.raw))
          | .ok (more, closing) => .ok (⟨skipped, cut⟩ :: more, closing)
termination_by text.length
decreasing_by
  have whole := congrArg List.length (gap_append ‹_›)
  have shorter := lexeme_shorter ‹_›
  rw [List.length_append] at whole
  omega

/-- The pieces of a source, put end to end, are the source. -/
theorem segments_append {text closing : List Char} {pieces : List Segment}
    (cut : segments text = .ok (pieces, closing)) :
    pieces.flatMap Segment.text ++ closing = text := by
  fun_induction segments text generalizing pieces closing with
  | case1 => cases cut
  | case2 text skipped found =>
      cases cut
      simpa using gap_append found
  | case3 => cases cut
  | case4 => cases cut
  | case5 text skipped c rest found lex behind cutAt more final inner ih =>
      cases cut
      have here := (lexeme_append cutAt).1
      have whole := gap_append found
      simp only [List.flatMap_cons, Segment.text, List.append_assoc]
      rw [← whole, ← here]
      simpa [Segment.text] using ih inner

/-! ## Placing -/

structure LexError where
  fault : LexFault
  line : Nat
  column : Nat
  deriving DecidableEq, Repr

def LexError.message (error : LexError) : String :=
  match error.fault with
  | .unexpectedChar c =>
      "unexpected character '" ++ c.toString ++ "' at " ++ toString error.line ++ ":" ++
        toString error.column
  | .unterminated what =>
      "unterminated " ++ what.name ++ " at " ++ toString error.line ++ ":" ++ toString error.column

def LexFailure.located (failure : LexFailure) : LexError :=
  let position := Position.start.after failure.before
  ⟨failure.fault, position.line, position.column⟩

def Token.ofLexeme (position : Position) (cut : Lexeme) : Token :=
  ⟨cut.kind, Span.of position cut.raw, String.ofList cut.raw⟩

/-- The token that stands for the end of the input. -/
def Token.endAt (position : Position) : Token :=
  ⟨.endOfInput, Span.of position [], ""⟩

/-- The tokens of a cut source that begins at `position`, the end token last. -/
def place (position : Position) (closing : List Char) : List Segment → List Token
  | [] => [Token.endAt (position.after closing)]
  | segment :: more =>
      let here := position.after segment.gap
      Token.ofLexeme here segment.lexeme :: place (here.after segment.lexeme.raw) closing more

/-- The tokens of a source, the end token last. -/
def tokenize (source : String) : Except LexError (List Token) :=
  match segments source.toList with
  | .error failure => .error failure.located
  | .ok (pieces, closing) => .ok (place .start closing pieces)

end AlterRelay.Sql
