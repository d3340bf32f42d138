/-
# AlterRelay.Proofs.Sql.Located — where tokens stand, and where a fault is found

A token is told at what stands in front of it: its line counts the newlines there,
and its column the characters behind the last of them (`placeBehind`). So is a fault.

The text in front of a fault is cut into tokens, and what is found behind it is one of
two things (`Blocked`). A character that begins no token is refused whatever follows
it. An opener of which the rest of the source holds no closer (`LeftOpen`) can still
be closed: some text behind the source makes it cut to its end
(`LeftOpen.completes`).
-/
import AlterRelay.Proofs.Sql.CutUpTo
import AlterRelay.Proofs.Sql.Lossless
import AlterRelay.Proofs.Sql.TokenPlaces
import Mathlib.Data.List.DropRight

namespace AlterRelay.Sql

open AlterRelay.Text

set_option autoImplicit false

/-! ## Places -/

/-- The line and the column behind a text: the newlines in it, and the characters behind the
last of them, each counted from one. -/
def placeBehind (text : List Char) : Nat × Nat :=
  (1 + text.count '\n', 1 + (text.rtakeWhile (· != '\n')).length)

theorem Position.place_after (text : List Char) :
    (Position.start.after text).place = placeBehind text := by
  induction text using List.reverseRecOn with
  | nil => rfl
  | append_singleton text c ih =>
      obtain ⟨line, column⟩ := Prod.mk.inj ih
      rw [Position.after_append, Position.after_cons, Position.after_nil]
      by_cases newline : c = '\n'
      · simp [placeBehind, Position.place, Position.step, newline, line, Nat.add_assoc]
      · simp [placeBehind, Position.place, Position.step, newline, line, column, Nat.add_assoc]

def LexError.place (error : LexError) : Nat × Nat := (error.line, error.column)

theorem LexFailure.place_located (failure : LexFailure) :
    failure.located.place = placeBehind failure.before :=
  Position.place_after failure.before

/-- The token covers a stretch of the source. What stands in front of it has as many bytes as
its start says, and ends at its line and column. -/
def Token.Located (source : String) (token : Token) : Prop :=
  ∃ before behind, source.toList = before ++ (token.text.toList ++ behind) ∧
    token.span.start = String.utf8Len before ∧ token.place = placeBehind before

theorem Position.offset_start_after (text : List Char) :
    (Position.start.after text).offset = String.utf8Len text := by
  rw [Position.offset_after]
  exact Nat.zero_add _

theorem place_located {source : String} (before : List Char) {closing : List Char}
    {pieces : List Segment}
    (whole : source.toList = before ++ (pieces.flatMap Segment.text ++ closing)) :
    ∀ token ∈ place (Position.start.after before) closing pieces, token.Located source := by
  induction pieces generalizing before with
  | nil =>
      intro token member
      rw [place, List.mem_singleton, ← Position.after_append] at member
      subst member
      exact ⟨before ++ closing, [], by simpa [Token.endAt] using whole,
        Position.offset_start_after _, Position.place_after _⟩
  | cons piece pieces ih =>
      intro token member
      rw [place, ← Position.after_append, ← Position.after_append] at member
      rcases List.mem_cons.mp member with rfl | further
      · exact ⟨before ++ piece.gap, pieces.flatMap Segment.text ++ closing,
          by simpa [Token.ofLexeme, Segment.text] using whole,
          Position.offset_start_after _, Position.place_after _⟩
      · exact ih _ (by simpa [Segment.text] using whole) token further

/-! ## Faults -/

/-- `opener` opens `what`, and no closer of it stands in `rest`. -/
inductive LeftOpen : Delimited → List Char → List Char → Prop where
  | quoted {c : Char} {what : Delimited} {kind : String → TokenKind} {rest : List Char}
      (meaning : quoteMeaning? c = some (what, kind)) (unclosed : quotedTail c rest = none) :
      LeftOpen what [c] rest
  | comment {rest : List Char} (unclosed : ¬blockCloser <:+: rest) :
      LeftOpen .blockComment blockOpener rest

/-- What stands where the cutting cannot go on, behind some trivia. -/
inductive Blocked : List Char → LexFailure → Prop where
  | unexpected {skipped : List Char} {c : Char} (trivia : IsTrivia false skipped)
      (noPoint : c ≠ '.')
      (always : ∀ rest, Stuck (skipped ++ c :: rest) ⟨skipped, .unexpectedChar c⟩)
      (rest : List Char) : Blocked (skipped ++ c :: rest) ⟨skipped, .unexpectedChar c⟩
  | leftOpen {skipped opener rest : List Char} {what : Delimited}
      (trivia : IsTrivia false skipped) (opens : LeftOpen what opener rest) :
      Blocked (skipped ++ (opener ++ rest)) ⟨skipped, .unterminated what⟩

/-- A character that begins no token begins none in front of any text. -/
theorem lexeme_error {c : Char} {rest : List Char} {fault : LexFault}
    (failed : lexeme c rest = .error fault) :
    (fault = .unexpectedChar c ∧ c ∉ ['-', '.', '/'] ∧ ∀ other, lexeme c other = .error fault) ∨
      ∃ what kind, quoteMeaning? c = some (what, kind) ∧ quotedTail c rest = none ∧
        fault = .unterminated what := by
  unfold lexeme at failed
  split at failed
  · cases failed
  rename_i noWord
  split at failed
  · cases failed
  rename_i noDigit
  split at failed
  · split at failed <;> cases failed
  rename_i noSign
  split at failed
  · rename_i what kind meaning
    split at failed
    · cases failed
    · rename_i unclosed
      cases failed
      exact .inr ⟨what, kind, meaning, unclosed, rfl⟩
  rename_i noQuote
  split at failed
  · cases failed
  rename_i noComparison
  split at failed
  · cases failed
  rename_i noMark
  cases failed
  -- No shape begins with this character, so nothing behind it was looked at.
  refine .inl ⟨rfl, ?_, fun other => ?_⟩
  · simp only [List.mem_cons, List.not_mem_nil, or_false]
    rintro (rfl | rfl | rfl)
    · exact noSign (.inl rfl)
    · cases noMark
    · cases noMark
  · simp only [lexeme, noWord, noDigit, noSign, noQuote, noComparison, noMark]
    rfl

theorem not_infix_of_blockTail {text : List Char} (unclosed : blockTail text = none) :
    ¬blockCloser <:+: text := by
  fun_induction blockTail text with
  | case1 => decide
  | case2 => cases unclosed
  | case3 c rest notCloser ih =>
      intro inside
      rcases List.infix_cons_iff.mp inside with front | further
      · obtain ⟨tail, same⟩ := front
        obtain ⟨rfl, rfl⟩ := List.cons.inj same
        exact notCloser _ rfl rfl
      · exact ih (Option.map_eq_none_iff.mp unclosed) further

/-- A gap ends early only at a comment that is left open. -/
theorem gap_error {text skipped : List Char} (failed : gap text = .error skipped) :
    IsTrivia false skipped ∧ ∃ body, text = skipped ++ (blockOpener ++ body) ∧
      ¬blockCloser <:+: body := by
  fun_induction gap text generalizing skipped with
  | case1 => cases failed
  | case2 text unclosed =>
      cases failed
      refine ⟨.nil, ?_⟩
      unfold triviaStep at unclosed
      split at unclosed
      · cases unclosed
      split at unclosed
      · rename_i body _
        split at unclosed
        · rename_i open'
          exact ⟨body, rfl, not_infix_of_blockTail open'⟩
        · cases unclosed
      · split at unclosed <;> cases unclosed
      · cases unclosed
  | case3 => cases failed
  | case4 text unit behind step before inner ih =>
      cases failed
      obtain ⟨trivia, body, rfl, unclosed⟩ := ih inner
      -- the comment that is left open begins with no newline, so that a newline behind the
      -- unit is one of the trivia
      refine ⟨isTrivia_of_unit step (fun ends => .inl ?_) trivia, body, ?_, unclosed⟩
      · rcases ends with none | newline
        · simp [blockOpener] at none
        · cases before with
          | nil => simp [blockOpener] at newline
          | cons c before => exact newline
      · rw [← (triviaStep_unit step).1, List.append_assoc]

theorem blocked_of_stuck {text : List Char} {failure : LexFailure} (stuck : Stuck text failure) :
    Blocked text failure := by
  cases stuck with
  | comment found =>
      obtain ⟨trivia, body, rfl, unclosed⟩ := gap_error found
      exact .leftOpen trivia (.comment unclosed)
  | @lexeme skipped rest c fault found cutAt =>
      have trivia : IsTrivia false skipped := isTrivia_of_gap found
      rw [← gap_append found]
      rcases lexeme_error cutAt with ⟨rfl, unlike, always⟩ | ⟨what, kind, meaning, unclosed, rfl⟩
      · simp only [List.mem_cons, List.not_mem_nil, or_false, not_or] at unlike
        obtain ⟨dash, point, slash⟩ := unlike
        obtain ⟨noLine, -, solid⟩ := triviaStep_eq_absent_iff.mp (triviaStep_of_gap found)
        have hash := (startsLineComment_eq_false_iff.mp noLine).1
        refine .unexpected trivia point (fun other => ?_) rest
        have front := front_of_solid (solid c rfl) ⟨hash, dash, slash⟩ other
        exact .lexeme (gap_of_isTrivia_of_absent trivia front) (always other)
      · exact .leftOpen trivia (.quoted meaning unclosed)

/-! ### Closing what is left open -/

/-- A quoted text that is left open can be closed, also behind a backslash at the end. -/
theorem quotedTail_completes {quote : Char} {text : List Char}
    (unclosed : quotedTail quote text = none) :
    ∃ more tail, quotedTail quote (text ++ more) = some tail ∧ tail.rest = [] := by
  fun_induction quotedTail quote text with
  | case1 => exact ⟨[quote], ⟨[], [quote], []⟩, by simp [quotedTail], rfl⟩
  | case2 => cases unclosed
  | case3 c other =>
      by_cases escape : c = backslash ∧ quote ≠ backQuote
      -- The backslash at the end would escape the quote, so another one has to close.
      · refine ⟨[quote, quote], ⟨[unescape quote], [c, quote, quote], []⟩, ?_, rfl⟩
        rw [List.cons_append, List.nil_append, quotedTail, if_neg other, if_pos escape]
        simp [quotedTail, QuotedTail.push]
      · exact ⟨[quote], ⟨[c], [c, quote], []⟩,
          by simp [quotedTail, other, escape, QuotedTail.push], rfl⟩
  | case4 rest ih =>
      obtain ⟨more, tail, closed, ends⟩ := ih (Option.map_eq_none_iff.mp unclosed)
      exact ⟨more, tail.push quote [quote, quote], by simp [quotedTail, closed], ends⟩
  | case5 => cases unclosed
  | case6 c d rest notQuote escape ih =>
      obtain ⟨more, tail, closed, ends⟩ := ih (Option.map_eq_none_iff.mp unclosed)
      refine ⟨more, tail.push (unescape d) [c, d], ?_, ends⟩
      rw [List.cons_append, List.cons_append, quotedTail, if_neg notQuote, if_pos escape, closed]
      rfl
  | case7 c d rest notQuote noEscape ih =>
      obtain ⟨more, tail, closed, ends⟩ := ih (Option.map_eq_none_iff.mp unclosed)
      refine ⟨more, tail.push c [c], ?_, ends⟩
      rw [List.cons_append] at closed
      rw [List.cons_append, List.cons_append, quotedTail, if_neg notQuote, if_neg noEscape, closed]
      rfl

theorem lexeme_of_quotedTail {c : Char} {what : Delimited} {kind : String → TokenKind}
    {rest : List Char} {tail : QuotedTail} (meaning : quoteMeaning? c = some (what, kind))
    (closed : quotedTail c rest = some tail) :
    lexeme c rest = .ok (⟨kind (String.ofList tail.value), c :: tail.raw⟩, tail.rest) := by
  have others : isWordStart c = false ∧ c.isDigit = false ∧ ¬(c = '-' ∨ c = '+') := by
    rcases isQuote_of_quoteMeaning? meaning with rfl | rfl | rfl <;> decide
  obtain ⟨noWord, noDigit, noSign⟩ := others
  simp [lexeme, noWord, noDigit, noSign, meaning, closed]

namespace LeftOpen

variable {what : Delimited} {opener rest : List Char}

/-- An opener is no point, so what is behind it is not looked at in front of it. -/
theorem replaces (opens : LeftOpen what opener rest) (other : List Char) :
    Replaces (opener ++ other) (opener ++ rest) := by
  cases opens with
  | quoted meaning unclosed =>
      refine .cons ?_ other rest
      rcases isQuote_of_quoteMeaning? meaning with rfl | rfl | rfl <;> decide
  | comment unclosed => exact .cons (by decide) ('*' :: other) ('*' :: rest)

theorem head?_ne_point (opens : LeftOpen what opener rest) :
    (opener ++ rest).head? ≠ some '.' := by
  cases opens with
  | quoted meaning unclosed =>
      rcases isQuote_of_quoteMeaning? meaning with rfl | rfl | rfl <;>
        exact fun point => absurd (Option.some.inj point) (by decide)
  | comment unclosed => exact fun point => absurd (Option.some.inj point) (by decide)

/-- What is left open can be closed, and the source is cut to its end. -/
theorem completes (opens : LeftOpen what opener rest) :
    ∃ more pieces closing, segments (opener ++ (rest ++ more)) = .ok (pieces, closing) := by
  cases opens with
  | @quoted c what kind rest meaning unclosed =>
      obtain ⟨more, tail, closed, ends⟩ := quotedTail_completes unclosed
      have front : triviaStep (c :: (rest ++ more)) = .absent := by
        rcases isQuote_of_quoteMeaning? meaning with rfl | rfl | rfl <;>
          exact front_of_solid (by decide) (by decide) _
      have cutAt := lexeme_of_quotedTail meaning closed
      rw [ends] at cutAt
      have final := segments_of_closing (gap_of_absent (rfl : triviaStep [] = .absent))
      exact ⟨more, _, _, segments_of_lexeme (gap_of_absent front) cutAt final⟩
  | comment unclosed =>
      have step := triviaStep_block unclosed []
      rw [List.append_nil] at step
      have found := gap_of_unit step (gap_of_absent rfl)
      rw [List.append_nil, List.append_assoc] at found
      exact ⟨blockCloser, [], _, segments_of_closing found⟩

end LeftOpen

/-! ## Any source -/

theorem leading_ok (text : List Char) {result : CutResult} {pieces : List Segment}
    {closing : List Char} (done : result = .ok (pieces, closing)) :
    ∃ pieces' closing', leading text result = .ok (pieces', closing') := by
  subst done
  cases pieces <;> exact ⟨_, _, rfl⟩

section

variable {text rest : List Char} {pieces : List Segment} {failure : LexFailure}

/-- The text in front of a fault is cut into the pieces in front of it. -/
theorem segments_before_fault (cut : CutUpTo text pieces rest) (blocked : Blocked rest failure) :
    segments (pieces.flatMap Segment.text ++ failure.before) = .ok (pieces, failure.before) := by
  have inner : IsTrivia false failure.before ∧ Replaces failure.before rest := by
    cases blocked with
    | @unexpected skipped c trivia noPoint always rest =>
        exact ⟨trivia, .front skipped fun point => noPoint (Option.some.inj point)⟩
    | @leftOpen skipped opener rest what trivia opens =>
        exact ⟨trivia, .front skipped opens.head?_ne_point⟩
  obtain ⟨trivia, replaces⟩ := inner
  have alone := gap_of_isTrivia_of_absent trivia (rfl : triviaStep [] = .absent)
  rw [List.append_nil] at alone
  rw [(cut.replaced replaces).segments, segments_of_closing alone, inFront, List.append_nil]

/-- A fault at a character that begins no token is the same fault in front of any text. -/
theorem segments_unexpected {skipped : List Char} {c : Char}
    (cut : CutUpTo text pieces (skipped ++ c :: rest)) (noPoint : c ≠ '.')
    (always : ∀ rest, Stuck (skipped ++ c :: rest) failure) (other : List Char) :
    segments (pieces.flatMap Segment.text ++ (skipped ++ c :: other)) =
      .error (failure.behind (pieces.flatMap Segment.text)) := by
  have replaces := (Replaces.cons noPoint other rest).append skipped
  rw [(cut.replaced replaces).segments, (always other).segments, inFront]

/-- What is left open can be closed behind the text, and what is in front of it stays. -/
theorem segments_completed {skipped opener : List Char} {what : Delimited}
    (cut : CutUpTo text pieces (skipped ++ (opener ++ rest))) (trivia : IsTrivia false skipped)
    (opens : LeftOpen what opener rest) :
    ∃ more pieces' closing, segments (text ++ more) = .ok (pieces ++ pieces', closing) := by
  obtain ⟨more, inner, last, done⟩ := opens.completes
  obtain ⟨pieces', closing, behind⟩ := leading_ok skipped done
  have replaces := (opens.replaces (rest ++ more)).append skipped
  have whole := (cut.replaced replaces).segments
  rw [segments_of_isTrivia trivia, behind, inFront] at whole
  refine ⟨more, pieces', closing, ?_⟩
  rw [← whole, ← cut.append]
  simp

end

section

variable {source : String} {rest skipped : List Char} {pieces : List Segment}
  {failure : LexFailure}

/-- The text in front of a fault has the tokens in front of it. -/
theorem tokenize_before_fault (cut : CutUpTo source.toList pieces rest)
    (blocked : Blocked rest failure) :
    ∃ final, tokenize (String.ofList (pieces.flatMap Segment.text ++ failure.before)) =
      .ok (placeFront .start pieces ++ [Token.endAt final]) := by
  obtain ⟨final, placed⟩ := place_eq .start failure.before pieces
  refine ⟨final, ?_⟩
  rw [← placed]
  exact tokenize_of_segments (by rw [String.toList_ofList, segments_before_fault cut blocked])

/-- A source that begins alike, up to the character that begins no token, fails alike. -/
theorem tokenize_unexpected {c : Char} (cut : CutUpTo source.toList pieces (skipped ++ c :: rest))
    (noPoint : c ≠ '.') (always : ∀ rest, Stuck (skipped ++ c :: rest) failure) {other : String}
    (begins : pieces.flatMap Segment.text ++ skipped ++ [c] <+: other.toList) :
    tokenize other = .error (failure.behind (pieces.flatMap Segment.text)).located := by
  obtain ⟨tail, same⟩ := begins
  rw [List.append_assoc, List.append_assoc] at same
  refine tokenize_of_failure ?_
  rw [← same]
  exact segments_unexpected cut noPoint always tail

/-- With some text behind it, a source that leaves something open has the tokens in front of
that and ends well. -/
theorem tokenize_completed {opener : List Char} {what : Delimited}
    (cut : CutUpTo source.toList pieces (skipped ++ (opener ++ rest)))
    (trivia : IsTrivia false skipped) (opens : LeftOpen what opener rest) :
    ∃ more tokens, tokenize (source ++ more) = .ok (placeFront .start pieces ++ tokens) := by
  obtain ⟨more, pieces', closing, done⟩ := segments_completed cut trivia opens
  rw [← String.toList_ofList (l := more), ← String.toList_append] at done
  have completed := tokenize_of_segments done
  rw [place_append] at completed
  exact ⟨_, _, completed⟩

end

/-- Tokenizing tells every token and every fault where it stands. A token is a stretch of the
source, and its line and column count what is in front of it. In front of a fault the source
is cut into tokens. An unexpected character stands right there, and whatever source begins
with the text up to it fails alike. What is unterminated is opened right there and closed
nowhere behind, and with some text behind it the source has the same tokens up to there and
ends well. -/
theorem tokenize_located (source : String) :
    match tokenize source with
    | .ok tokens => ∀ token ∈ tokens, token.Located source
    | .error error => ∃ before behind front final, source.toList = before ++ behind ∧
        error.place = placeBehind before ∧
        tokenize (String.ofList before) = .ok (front ++ [Token.endAt final]) ∧
        match error.fault with
        | .unexpectedChar c => behind.head? = some c ∧
            ∀ other : String, before ++ [c] <+: other.toList → tokenize other = .error error
        | .unterminated what =>
            (∃ opener rest, behind = opener ++ rest ∧ LeftOpen what opener rest) ∧
              ∃ more tokens, tokenize (source ++ more) = .ok (front ++ tokens) := by
  cases cut : segments source.toList with
  | ok result =>
      obtain ⟨pieces, closing⟩ := result
      rw [tokenize_of_segments cut]
      exact place_located [] (segments_append cut).symm
  | error failure =>
      rw [tokenize_of_failure cut]
      obtain ⟨pieces, rest, here, further, stuck, rfl⟩ := cutUpTo_of_error cut
      have blocked := blocked_of_stuck stuck
      have told := (here.behind (pieces.flatMap Segment.text)).place_located
      obtain ⟨final, lexed⟩ := tokenize_before_fault further blocked
      have whole := further.append
      cases blocked with
      | @unexpected skipped c trivia noPoint always rest =>
          rw [← List.append_assoc] at whole
          exact ⟨pieces.flatMap Segment.text ++ skipped, c :: rest, _, final, whole.symm, told,
            lexed, rfl, fun other begins => tokenize_unexpected further noPoint always begins⟩
      | @leftOpen skipped opener rest what trivia opens =>
          rw [← List.append_assoc] at whole
          exact ⟨pieces.flatMap Segment.text ++ skipped, opener ++ rest, _, final, whole.symm, told,
            lexed, ⟨opener, rest, rfl, opens⟩, tokenize_completed further trivia opens⟩

/-- A literal that ends in a pending escape, behind a comment over two lines. -/
example : tokenize "/* \n */ é'b\\" = .error ⟨.unterminated .stringLiteral, 2, 6⟩ := by
  decide +kernel

end AlterRelay.Sql
