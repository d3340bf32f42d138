/-
# AlterRelay.Proofs.Checked.Scanning — the scanner never traps

In front of a text that is left of a source, the scanner does what the functions on
lists of characters say: it takes what they take, and comes to the position behind it
(`Scanner.at`). Two facts about that position carry all of this. Its offset lies
between two characters, and so do the offsets of the characters ahead, so what is cut
from the source is what is ahead (`slice?_rest`). And its line and column are at most
one more than the characters in front of it, so in a source of fewer than 2 ^ 32 - 1
characters they can be counted up for every character that is left (`advance_cons`).

`tokenize?_eq`: the scanner ends with the tokens of the source, or with its error.
-/
import AlterRelay.Proofs.Checked.Scanner
import AlterRelay.Proofs.Sql.Written

namespace AlterRelay.Checked

open AlterRelay.Sql
open AlterRelay.Text

set_option autoImplicit false

/-! ## How far the scanner is -/

/-- The scanner in front of `rest`, at `position`. -/
def Scanner.at (position : Position) (rest : List Char) : Scanner :=
  ⟨offsetsFrom position.offset rest, position.offset, .ofNat position.line, .ofNat position.column⟩

/-- The source is walked over up to `position`, and `rest` is left of it. -/
def Walked (source : String) (position : Position) (rest : List Char) : Prop :=
  ∃ before, source.toList = before ++ rest ∧ position = Position.start.after before

/-- Every line and column of the source, and of its end, is a word of 32 bits. -/
def Countable (source : String) : Prop := source.length + 1 < UInt32.size

/-- Lines and columns grow by one with each character at most. This is what keeps the counters in
range. -/
theorem Position.after_le (position : Position) (text : List Char) :
    (position.after text).line ≤ position.line + text.length ∧
      (position.after text).column ≤ max position.column 1 + text.length := by
  induction text generalizing position with
  | nil => exact ⟨Nat.le_refl _, Nat.le_max_left _ _⟩
  | cons c text ih =>
      obtain ⟨line, column⟩ := ih (position.step c)
      have stepped : (position.step c).line ≤ position.line + 1 ∧
          (position.step c).column ≤ max position.column 1 + 1 := by
        unfold Position.step
        split
        · exact ⟨Nat.le_refl _, by simp⟩
        · exact ⟨Nat.le_succ _, Nat.succ_le_succ (Nat.le_max_left _ _)⟩
      rw [Position.after_cons, List.length_cons]
      omega

namespace Walked

variable {source : String} {position : Position} {text rest : List Char} {c : Char}

/-- Nothing has been walked at the start. -/
theorem start (source : String) : Walked source .start source.toList := ⟨[], rfl, rfl⟩

/-- Walking on over any text in front. -/
theorem after (walked : Walked source position (text ++ rest)) :
    Walked source (position.after text) rest := by
  obtain ⟨before, split, rfl⟩ := walked
  exact ⟨before ++ text, by rw [split, List.append_assoc], (Position.after_append ..).symm⟩

theorem single (walked : Walked source position (c :: rest)) :
    Walked source position ([c] ++ rest) := walked

/-- Walking on over one character. -/
theorem step (walked : Walked source position (c :: rest)) :
    Walked source (position.step c) rest :=
  walked.single.after

/-- The offset of a position that was walked to is that of what is left. -/
theorem reached (walked : Walked source position rest) : Reached source position rest := by
  obtain ⟨before, split, rfl⟩ := walked
  have start : Reached source .start (before ++ rest) := split ▸ Reached.start source
  exact start.after

/-- There is room to count what is left. -/
theorem room (walked : Walked source position rest) (countable : Countable source) :
    position.line + rest.length < UInt32.size ∧ position.column + rest.length < UInt32.size := by
  obtain ⟨before, split, rfl⟩ := walked
  obtain ⟨line, column⟩ := Position.after_le .start before
  have whole : source.length = before.length + rest.length := by
    rw [← String.length_toList, split, List.length_append]
  unfold Countable at countable
  simp only [Position.start] at line column ⊢
  omega

/-- Walking on over trivia and one lexeme, which leaves less than there was. -/
theorem beyond {skipped behind : List Char} {cut : Lexeme}
    (walked : Walked source position text) (found : gap text = .ok (skipped, c :: rest))
    (lexed : lexeme c rest = .ok (cut, behind)) :
    Walked source ((position.after skipped).after cut.raw) behind ∧
      behind.length < text.length := by
  have whole := gap_append found
  have shorter := lexeme_shorter lexed
  have front : Walked source (position.after skipped) (cut.raw ++ behind) := by
    rw [← whole] at walked
    rw [(lexeme_append lexed).1]
    exact walked.after
  refine ⟨front.after, ?_⟩
  rw [← whole, List.length_append]
  omega

end Walked

section

variable {source : String} {position : Position} {text rest : List Char} {c : Char}

/-! ## Cutting -/

/-- A slice between two positions that were walked to lies on boundaries of characters, and is what
was walked over. -/
theorem slice?_text (walked : Walked source position (text ++ rest)) :
    slice? source position.offset (position.after text).offset = some (String.ofList text) := by
  have ordered : position.offset ≤ (position.after text).offset := by
    rw [Position.offset_after]
    omega
  unfold slice?
  rw [if_pos ⟨ordered, walked.reached.boundary, walked.after.reached.boundary⟩,
    walked.reached.slice]

/-- The slice to the end of the source is what is left of it. -/
theorem slice?_rest (walked : Walked source position rest) :
    slice? source position.offset source.utf8ByteSize = some (String.ofList rest) := by
  have all : Walked source position (rest ++ []) := by rwa [List.append_nil]
  rw [← walked.reached.whole]
  exact slice?_text all

/-! ## Single characters -/

/-- The line of the source is counted without wrapping around. -/
theorem toNat_line (walked : Walked source position rest) (countable : Countable source) :
    (UInt32.ofNat position.line).toNat = position.line :=
  UInt32.toNat_ofNat_of_lt' (by have := walked.room countable; omega)

theorem toNat_column (walked : Walked source position rest) (countable : Countable source) :
    (UInt32.ofNat position.column).toNat = position.column :=
  UInt32.toNat_ofNat_of_lt' (by have := walked.room countable; omega)

namespace Scan

theorem peek_nil (position : Position) : peek (.at position []) = done none (.at position []) := rfl

theorem peek_cons (position : Position) (c : Char) (rest : List Char) :
    peek (.at position (c :: rest)) =
      done (some (position.offset, c)) (.at position (c :: rest)) := rfl

theorem advance_nil (position : Position) :
    advance (.at position []) = done none (.at position []) := rfl

/-- Moving over a character counts its bytes, and its line or its column. -/
theorem behind?_at (walked : Walked source position (c :: rest)) (countable : Countable source) :
    (Scanner.at position (c :: rest)).behind? position.offset c
        (offsetsFrom (position.offset + c.utf8Size) rest) =
      some (.at (position.step c) rest) := by
  obtain ⟨line, column⟩ := walked.room countable
  rw [List.length_cons] at line column
  unfold Scanner.behind? Position.step
  split
  · exact congrArg (Option.map _) (increment?_ofNat (by omega))
  · exact congrArg (Option.map _) (increment?_ofNat (by omega))

/-- The scanner moves over one character without a trap. -/
theorem advance_cons (walked : Walked source position (c :: rest)) (countable : Countable source) :
    advance (.at position (c :: rest)) = done (some c) (.at (position.step c) rest) := by
  unfold advance
  rw [bind_done get_done]
  change bind (checked ((Scanner.at position (c :: rest)).behind? _ c _)) _ _ = _
  rw [behind?_at walked countable, bind_done (checked_some _), bind_done set_done]
  rfl

theorem accept_nil (expected : Char) (position : Position) :
    accept expected (.at position []) = done false (.at position []) := rfl

/-- An expected character that is there is moved over. -/
theorem accept_same (walked : Walked source position (c :: rest)) (countable : Countable source) :
    accept c (.at position (c :: rest)) = done true (.at (position.step c) rest) := by
  unfold accept
  rw [bind_done (peek_cons ..)]
  dsimp only
  rw [if_pos rfl, bind_done (advance_cons walked countable)]
  rfl

/-- Another character is left where it is. -/
theorem accept_other {expected : Char} (other : c ≠ expected) (position : Position)
    (rest : List Char) :
    accept expected (.at position (c :: rest)) = done false (.at position (c :: rest)) := by
  unfold accept
  rw [bind_done (peek_cons ..)]
  dsimp only
  rw [if_neg other]
  rfl

/-! ## Loops -/

/-- The characters that are left carry one offset each. -/
theorem length_offsetsFrom (offset : Nat) (text : List Char) :
    (offsetsFrom offset text).length = text.length := by
  induction text generalizing offset with
  | nil => rfl
  | cons c text ih => exact congrArg Nat.succ (ih _)

section

variable {α β : Type} {body : α → Scan (Turn α β)} {value value' : α} {position' : Position}
  {rest' : List Char}

/-- A turn that leaves less behind is followed by the next one. -/
theorem loop_next
    (turn : body value (.at position rest) = done (.again value') (.at position' rest'))
    (shorter : rest'.length < rest.length) :
    loop body value (.at position rest) = loop body value' (.at position' rest') := by
  refine loop_again turn ?_
  simpa [Scanner.at, length_offsetsFrom] using shorter

end

/-- Moving over characters that go on is what `takeWhile` takes. -/
theorem advanceWhile_eq (walked : Walked source position rest) (countable : Countable source)
    (continues : Char → Bool) :
    advanceWhile continues (.at position rest) =
      done () (.at (position.after (rest.takeWhile continues)) (rest.dropWhile continues)) := by
  unfold advanceWhile
  induction rest generalizing position with
  | nil => exact loop_leave rfl
  | cons c rest ih =>
      by_cases goes : continues c = true
      · have turn : advanceWhileTurn continues () (.at position (c :: rest)) =
            done (.again ()) (.at (position.step c) rest) := by
          unfold advanceWhileTurn
          rw [bind_done (peek_cons ..)]
          dsimp only
          rw [if_pos goes, bind_done (advance_cons walked countable)]
          rfl
        rw [loop_next turn (Nat.lt_succ_self _), ih walked.step, List.takeWhile_cons_of_pos goes,
          List.dropWhile_cons_of_pos goes, Position.after_cons]
      · have turn : advanceWhileTurn continues () (.at position (c :: rest)) =
            done (.leave ()) (.at position (c :: rest)) := by
          unfold advanceWhileTurn
          rw [bind_done (peek_cons ..)]
          dsimp only
          rw [if_neg goes]
          rfl
        rw [List.takeWhile_cons_of_neg goes, List.dropWhile_cons_of_neg goes]
        exact loop_leave turn

/-! ## Trivia -/

/-- Behind the opener of a comment, the scanner comes to the text behind its closer. -/
theorem closeComment_eq (walked : Walked source position text) (countable : Countable source)
    (unclosed : LexError) :
    closeComment unclosed (.at position text) =
      match blockTail text with
      | none => failed unclosed
      | some (body, rest) => done () (.at (position.after body) rest) := by
  unfold closeComment
  fun_induction blockTail text generalizing position with
  | case1 => exact loop_failed rfl
  | case2 rest =>
      refine loop_leave ?_
      unfold closeCommentTurn
      rw [bind_done (advance_cons walked countable)]
      dsimp only
      rw [if_pos rfl, bind_done (accept_same walked.step countable)]
      rfl
  | case3 c rest open_ ih =>
      -- A star that closes nothing has no slash behind it.
      have notCloser (star : c = '*') : accept '/' (.at (position.step c) rest) =
          done false (.at (position.step c) rest) := by
        cases rest with
        | nil => rfl
        | cons d rest => exact accept_other (fun slash => open_ rest star (by rw [slash])) _ _
      have turn : closeCommentTurn unclosed () (.at position (c :: rest)) =
          done (.again ()) (.at (position.step c) rest) := by
        unfold closeCommentTurn
        rw [bind_done (advance_cons walked countable)]
        dsimp only
        split
        · rename_i star
          rw [bind_done (notCloser star)]
          rfl
        · rfl
      rw [loop_next turn (Nat.lt_succ_self _), ih walked.step]
      cases blockTail rest <;> rfl

/-- The mark of a token that begins at `position`. -/
def Mark.at (position : Position) : Mark :=
  ⟨position.offset, .ofNat position.line, .ofNat position.column⟩

theorem mark_at (position : Position) (rest : List Char) :
    mark (.at position rest) = done (.at position) (.at position rest) := rfl

/-- A fault is told at the place of the mark. -/
theorem Mark.fault_at (walked : Walked source position rest) (countable : Countable source)
    (fault : LexFault) :
    (Mark.at position).fault fault = ⟨fault, position.line, position.column⟩ := by
  unfold Mark.fault Mark.at
  rw [toNat_line walked countable, toNat_column walked countable]

/-- The scanner looks for `#` and for two dashes by themselves. -/
theorem startsLineComment_cons (c : Char) (rest : List Char) :
    (c = '#' ∨ ['-', '-'].isPrefixOf (c :: rest) = true) ↔
      startsLineComment (c :: rest) = true := by
  rw [startsLineComment_eq_true_iff, List.isPrefixOf_iff_prefix]
  simp [lineOpeners, eq_comm]

/-- A block comment is closed in the turn that opens it, or it is the fault. -/
theorem skipTriviaTurn_block {body : List Char}
    (walked : Walked source position ('/' :: '*' :: body)) (countable : Countable source) :
    skipTriviaTurn source () (.at position ('/' :: '*' :: body)) =
      match blockTail body with
      | none => failed ⟨.unterminated .blockComment, position.line, position.column⟩
      | some (comment, rest) =>
          done (.again ()) (.at (position.after ('/' :: '*' :: comment)) rest) := by
  have solid : ¬isBlank '/' = true := by decide
  have noLine : ¬('/' = '#' ∨ ['-', '-'].isPrefixOf ('/' :: '*' :: body) = true) := by
    simp [List.isPrefixOf]
  have opens : ['/', '*'].isPrefixOf ('/' :: '*' :: body) = true := rfl
  have closes := closeComment_eq walked.step.step countable
    ⟨.unterminated .blockComment, position.line, position.column⟩
  unfold skipTriviaTurn
  rw [bind_done (peek_cons ..)]
  dsimp only
  rw [if_neg solid, slice?_rest walked, bind_done (checked_some _), String.toList_ofList,
    if_neg noLine, if_pos opens, bind_done (mark_at ..), bind_done (advance_cons walked countable),
    bind_done (advance_cons walked.step countable), Mark.fault_at walked countable]
  cases found : blockTail body with
  | none =>
      rw [found] at closes
      rw [bind_failed closes]
  | some tail =>
      rw [found] at closes
      rw [bind_done closes]
      rfl

/-- One turn skips one unit of trivia, as `triviaStep` tells it. -/
theorem skipTriviaTurn_eq (walked : Walked source position text) (countable : Countable source) :
    skipTriviaTurn source () (.at position text) =
      match triviaStep text with
      | .absent => done (.leave ()) (.at position text)
      | .unclosed => failed ⟨.unterminated .blockComment, position.line, position.column⟩
      | .unit skipped rest => done (.again ()) (.at (position.after skipped) rest) := by
  cases text with
  | nil => rfl
  | cons c rest =>
      -- A block comment is split off first, since it is told by two characters.
      by_cases block : c = '/' ∧ ∃ body, rest = '*' :: body
      · obtain ⟨rfl, body, rfl⟩ := block
        have step : triviaStep ('/' :: '*' :: body) =
            match blockTail body with
            | none => .unclosed
            | some (comment, rest) => .unit ('/' :: '*' :: comment) rest := rfl
        rw [skipTriviaTurn_block walked countable, step]
        cases blockTail body <;> rfl
      unfold skipTriviaTurn
      rw [bind_done (peek_cons ..)]
      dsimp only
      by_cases blank : isBlank c = true
      · rw [if_pos blank, bind_done (advance_cons walked countable), triviaStep_blank blank]
        rfl
      rw [if_neg blank, slice?_rest walked, bind_done (checked_some _), String.toList_ofList]
      by_cases comment : startsLineComment (c :: rest) = true
      · rw [if_pos ((startsLineComment_cons c rest).mpr comment),
          bind_done (advanceWhile_eq walked countable _)]
        unfold triviaStep
        rw [if_pos comment]
        rfl
      rw [if_neg (mt (startsLineComment_cons c rest).mp comment)]
      have closed : ¬['/', '*'].isPrefixOf (c :: rest) = true := by
        rw [List.isPrefixOf_iff_prefix]
        rintro ⟨body, opened⟩
        cases opened
        exact block ⟨rfl, body, rfl⟩
      have absent : triviaStep (c :: rest) = .absent := by
        refine triviaStep_eq_absent_iff.mpr ⟨by simpa using comment, ?_, by simpa using blank⟩
        rintro body same
        cases same
        exact block ⟨rfl, body, rfl⟩
      rw [if_neg closed, absent]
      rfl

/-- Trivia are skipped unit by unit, up to what is none or to an open comment. -/
theorem skipTrivia_eq (walked : Walked source position text) (countable : Countable source) :
    skipTrivia source (.at position text) =
      match gap text with
      | .ok (skipped, rest) => done () (.at (position.after skipped) rest)
      | .error before =>
          failed ⟨.unterminated .blockComment, (position.after before).line,
            (position.after before).column⟩ := by
  unfold skipTrivia
  fun_induction gap text generalizing position with
  | case1 text absent =>
      have turn := skipTriviaTurn_eq walked countable
      rw [absent] at turn
      exact loop_leave turn
  | case2 text unclosed =>
      have turn := skipTriviaTurn_eq walked countable
      rw [unclosed] at turn
      exact loop_failed turn
  | case3 text skipped rest unit more behind inner ih =>
      have turn := skipTriviaTurn_eq walked countable
      rw [unit] at turn
      have further : Walked source (position.after skipped) rest := by
        rw [← (triviaStep_unit unit).1] at walked
        exact walked.after
      rw [loop_next turn (triviaStep_shorter unit), ih further, inner]
      dsimp only
      rw [Position.after_append]
  | case4 text skipped rest unit before inner ih =>
      have turn := skipTriviaTurn_eq walked countable
      rw [unit] at turn
      have further : Walked source (position.after skipped) rest := by
        rw [← (triviaStep_unit unit).1] at walked
        exact walked.after
      rw [loop_next turn (triviaStep_shorter unit), ih further, inner]
      dsimp only
      rw [Position.after_append]

/-! ## Shapes of tokens -/

/-- A token is cut out between the mark and the place where the scanner is. -/
theorem token_eq (walked : Walked source position (text ++ rest)) (countable : Countable source)
    (kind : TokenKind) :
    token source kind (.at position) (.at (position.after text) rest) =
      done (Token.ofLexeme position ⟨kind, text⟩) (.at (position.after text) rest) := by
  unfold token
  rw [bind_done get_done]
  change bind (checked (slice? source position.offset (position.after text).offset)) _ _ = _
  rw [slice?_text walked, bind_done (checked_some _)]
  unfold Mark.at Token.ofLexeme Span.of
  rw [toNat_line walked countable, toNat_column walked countable]
  rfl

theorem word_eq (walked : Walked source position text) (countable : Countable source) :
    word source (.at position text) =
      done (Token.ofLexeme position ⟨.word, text.takeWhile isWordPart⟩)
        (.at (position.after (text.takeWhile isWordPart)) (text.dropWhile isWordPart)) := by
  have split := List.takeWhile_append_dropWhile (p := isWordPart) (l := text)
  unfold word
  rw [bind_done (mark_at ..), bind_done (advanceWhile_eq walked countable _)]
  rw [← split] at walked
  exact token_eq walked countable .word

/-- Looking behind the point of a number slices the source at a boundary. -/
theorem slice?_point (walked : Walked source position ('.' :: rest)) :
    slice? source (position.offset + 1) source.utf8ByteSize = some (String.ofList rest) :=
  slice?_rest walked.step

/-- A point with a digit behind it belongs to the number. -/
theorem fraction_digits (walked : Walked source position ('.' :: rest))
    (countable : Countable source) (digits : startsWithDigit rest = true) :
    fraction source (.at position ('.' :: rest)) =
      done () (.at (position.after ('.' :: rest.takeWhile Char.isDigit))
        (rest.dropWhile Char.isDigit)) := by
  unfold fraction
  rw [bind_done (peek_cons ..)]
  dsimp only
  rw [if_pos rfl, slice?_point walked, bind_done (checked_some _), String.toList_ofList,
    if_pos digits, bind_done (advance_cons walked countable)]
  exact advanceWhile_eq walked.step countable _

/-- A point without one does not, and nothing is moved over. -/
theorem fraction_none (walked : Walked source position text)
    (pointless : ∀ rest, text = '.' :: rest → ¬startsWithDigit rest = true) :
    fraction source (.at position text) = done () (.at position text) := by
  unfold fraction
  cases text with
  | nil => rfl
  | cons c rest =>
      rw [bind_done (peek_cons ..)]
      dsimp only
      by_cases point : c = '.'
      · subst point
        rw [if_pos rfl, slice?_point walked, bind_done (checked_some _), String.toList_ofList,
          if_neg (pointless rest rfl)]
        rfl
      · rw [if_neg point]
        rfl

/-- The digits in front of the point and behind it are one tail of a number. -/
theorem fraction_eq (walked : Walked source position text) (countable : Countable source) :
    (do advanceWhile Char.isDigit; fraction source : Scan Unit) (.at position text) =
      done () (.at (position.after (numberTail text).1) (numberTail text).2) := by
  have split := List.takeWhile_append_dropWhile (p := Char.isDigit) (l := text)
  rw [bind_done (advanceWhile_eq walked countable _)]
  rw [← split] at walked
  unfold numberTail
  split
  · rename_i rest point
    rw [point] at walked ⊢
    split
    · rw [fraction_digits walked.after countable ‹_›, Position.after_append]
    · refine fraction_none walked.after fun _ same => ?_
      cases same
      assumption
  · rename_i pointless
    exact fraction_none walked.after fun rest same => absurd same (pointless rest)

/-- The digits and a fraction behind `front`, which is a sign or nothing. -/
theorem number_eq {front : List Char} (walked : Walked source position (front ++ text))
    (countable : Countable source) :
    number source (.at position) (.at (position.after front) text) =
      done (Token.ofLexeme position ⟨.number, front ++ (numberTail text).1⟩)
        (.at (position.after (front ++ (numberTail text).1)) (numberTail text).2) := by
  have digits := fraction_eq walked.after countable
  have whole : Walked source position (front ++ (numberTail text).1 ++ (numberTail text).2) := by
    rwa [List.append_assoc, numberTail_append]
  unfold number
  rw [← bind_assoc, bind_done digits, ← Position.after_append]
  exact token_eq whole countable .number

section

variable {quote d : Char} (unclosed : LexError) (value : List Char)

/-- A quote that is not followed by another one closes. -/
theorem quotedTurn_close (walked : Walked source position (quote :: rest))
    (countable : Countable source)
    (closes : accept quote (.at (position.step quote) rest) =
      done false (.at (position.step quote) rest)) :
    quotedTurn quote unclosed value (.at position (quote :: rest)) =
      done (.leave value) (.at (position.step quote) rest) := by
  unfold quotedTurn
  rw [bind_done (advance_cons walked countable)]
  dsimp only
  rw [if_pos rfl, bind_done closes]
  rfl

/-- Two quotes are one in the value. -/
theorem quotedTurn_doubled (walked : Walked source position (quote :: quote :: rest))
    (countable : Countable source) :
    quotedTurn quote unclosed value (.at position (quote :: quote :: rest)) =
      done (.again (value ++ [quote])) (.at ((position.step quote).step quote) rest) := by
  unfold quotedTurn
  rw [bind_done (advance_cons walked countable)]
  dsimp only
  rw [if_pos rfl, bind_done (accept_same walked.step countable)]
  rfl

/-- A backslash takes the next character with it, but not in back-quotes. -/
theorem quotedTurn_escape (walked : Walked source position (c :: d :: rest))
    (countable : Countable source) (other : c ≠ quote)
    (escape : c = backslash ∧ quote ≠ backQuote) :
    quotedTurn quote unclosed value (.at position (c :: d :: rest)) =
      done (.again (value ++ [unescape d])) (.at ((position.step c).step d) rest) := by
  unfold quotedTurn
  rw [bind_done (advance_cons walked countable)]
  dsimp only
  rw [if_neg other, if_pos escape, bind_done (advance_cons walked.step countable)]
  rfl

/-- A source that ends behind a backslash leaves the literal open. -/
theorem quotedTurn_cutOff (walked : Walked source position [c]) (countable : Countable source)
    (other : c ≠ quote) (escape : c = backslash ∧ quote ≠ backQuote) :
    quotedTurn quote unclosed value (.at position [c]) = failed unclosed := by
  unfold quotedTurn
  rw [bind_done (advance_cons walked countable)]
  dsimp only
  rw [if_neg other, if_pos escape, bind_done (advance_nil _)]
  rfl

theorem quotedTurn_plain (walked : Walked source position (c :: rest))
    (countable : Countable source) (other : c ≠ quote)
    (plain : ¬(c = backslash ∧ quote ≠ backQuote)) :
    quotedTurn quote unclosed value (.at position (c :: rest)) =
      done (.again (value ++ [c])) (.at (position.step c) rest) := by
  unfold quotedTurn
  rw [bind_done (advance_cons walked countable)]
  dsimp only
  rw [if_neg other, if_neg plain]
  rfl

end

/-- Turn by turn, the scanner reads a quoted text as it is defined. -/
theorem quotedTurns_eq (walked : Walked source position text) (countable : Countable source)
    (quote : Char) (unclosed : LexError) (value : List Char) :
    loop (quotedTurn quote unclosed) value (.at position text) =
      match quotedTail quote text with
      | none => failed unclosed
      | some tail => done (value ++ tail.value) (.at (position.after tail.raw) tail.rest) := by
  -- One turn of the loop for each equation of `quotedTail`.
  fun_induction quotedTail quote text generalizing position value with
  | case1 => exact loop_failed rfl
  | case2 =>
      dsimp only
      rw [List.append_nil]
      exact loop_leave (quotedTurn_close unclosed value walked countable rfl)
  | case3 c other =>
      by_cases escape : c = backslash ∧ quote ≠ backQuote
      · exact loop_failed (quotedTurn_cutOff unclosed value walked countable other escape)
      · rw [loop_next (quotedTurn_plain unclosed value walked countable other escape)
          (Nat.lt_succ_self _)]
        exact loop_failed rfl
  | case4 rest ih =>
      rw [loop_next (quotedTurn_doubled unclosed value walked countable)
        (Nat.lt_succ_of_lt (Nat.lt_succ_self _)), ih walked.step.step]
      cases quotedTail quote rest with
      | none => rfl
      | some tail => simp [QuotedTail.push]
  | case5 d rest other =>
      dsimp only
      rw [List.append_nil]
      exact loop_leave (quotedTurn_close unclosed value walked countable (accept_other other ..))
  | case6 c d rest other escape ih =>
      rw [loop_next (quotedTurn_escape unclosed value walked countable other escape)
        (Nat.lt_succ_of_lt (Nat.lt_succ_self _)), ih walked.step.step]
      cases quotedTail quote rest with
      | none => rfl
      | some tail => simp [QuotedTail.push]
  | case7 c d rest other plain ih =>
      rw [loop_next (quotedTurn_plain unclosed value walked countable other plain)
        (Nat.lt_succ_self _), ih walked.step]
      cases quotedTail quote (d :: rest) with
      | none => rfl
      | some tail => simp [QuotedTail.push]

/-- The value that the turns collect is that of `quotedTail`, or the quotes are not closed in
either. -/
theorem quoted_eq (walked : Walked source position (c :: rest)) (countable : Countable source)
    (what : Delimited) (kind : String → TokenKind) :
    quoted source c what kind (.at position) (.at position (c :: rest)) =
      match quotedTail c rest with
      | some tail =>
          done (Token.ofLexeme position ⟨kind (String.ofList tail.value), c :: tail.raw⟩)
            (.at (position.after (c :: tail.raw)) tail.rest)
      | none => failed ⟨.unterminated what, position.line, position.column⟩ := by
  have value := quotedTurns_eq walked.step countable c
    ⟨.unterminated what, position.line, position.column⟩ []
  unfold quoted quotedValue
  rw [bind_done (advance_cons walked countable), Mark.fault_at walked countable]
  cases closed : quotedTail c rest with
  | none =>
      rw [closed] at value
      exact bind_failed value
  | some tail =>
      rw [closed] at value
      have whole : Walked source position (c :: tail.raw ++ tail.rest) := by
        rwa [List.cons_append, quotedTail_append closed]
      rw [bind_done value]
      exact token_eq whole countable _

theorem single_eq (walked : Walked source position (c :: rest)) (countable : Countable source)
    (kind : TokenKind) :
    single source kind (.at position) (.at position (c :: rest)) =
      done (Token.ofLexeme position ⟨kind, [c]⟩) (.at (position.after [c]) rest) := by
  unfold single
  rw [bind_done (advance_cons walked countable)]
  exact token_eq walked.single countable kind

/-- A sign belongs to a number if a digit stands right behind it. -/
theorem signed_eq (walked : Walked source position (c :: rest)) (countable : Countable source) :
    signed source (.at position) (.at position (c :: rest)) =
      if startsWithDigit rest then
        done (Token.ofLexeme position ⟨.number, c :: (numberTail rest).1⟩)
          (.at (position.after (c :: (numberTail rest).1)) (numberTail rest).2)
      else done (Token.ofLexeme position ⟨.operator, [c]⟩) (.at (position.after [c]) rest) := by
  unfold signed
  rw [bind_done (advance_cons walked countable)]
  cases rest with
  | nil => exact token_eq walked.single countable .operator
  | cons d rest =>
      rw [bind_done (peek_cons ..)]
      dsimp only
      by_cases digit : startsWithDigit (d :: rest) = true
      · rw [if_pos digit]
        refine (congrFun (if_pos digit) _).trans ?_
        exact number_eq walked.single countable
      · rw [if_neg digit]
        refine (congrFun (if_neg digit) _).trans ?_
        exact token_eq walked.single countable .operator

/-- Any other character behind a comparison is left. -/
theorem comparisonTail_none {d : Char} (notEquals : d ≠ '=') (alone : ¬(c = '<' ∧ d = '>'))
    (rest : List Char) : comparisonTail c (d :: rest) = ([], d :: rest) := by
  unfold comparisonTail
  split <;> simp_all

/-- The second character of a comparison is tried in the order of the source. -/
theorem comparison_eq (walked : Walked source position (c :: rest)) (countable : Countable source) :
    comparison source c (.at position) (.at position (c :: rest)) =
      done (Token.ofLexeme position ⟨.operator, c :: (comparisonTail c rest).1⟩)
        (.at (position.after (c :: (comparisonTail c rest).1)) (comparisonTail c rest).2) := by
  have whole : Walked source position
      (c :: (comparisonTail c rest).1 ++ (comparisonTail c rest).2) := by
    rwa [List.cons_append, comparisonTail_append]
  have cut := token_eq whole countable .operator
  unfold comparison
  rw [bind_done (advance_cons walked countable)]
  cases rest with
  | nil =>
      rw [bind_done (accept_nil ..), if_neg Bool.false_ne_true]
      split <;> exact cut
  | cons d rest =>
      by_cases equals : d = '='
      · subst equals
        rw [bind_done (accept_same walked.step countable), if_pos rfl]
        exact cut
      rw [bind_done (accept_other equals ..), if_neg Bool.false_ne_true]
      by_cases pair : c = '<' ∧ d = '>'
      · obtain ⟨rfl, rfl⟩ := pair
        rw [if_pos rfl, bind_done (accept_same walked.step countable)]
        exact cut
      rw [comparisonTail_none equals pair] at cut ⊢
      by_cases less : c = '<'
      · rw [if_pos less, bind_done (accept_other (fun greater => pair ⟨less, greater⟩) ..)]
        exact cut
      · rw [if_neg less]
        exact cut

/-! ## Tokens -/

/-- A digit in front of a tail of a number belongs to it. -/
theorem numberTail_digit (digit : c.isDigit = true) (rest : List Char) :
    numberTail (c :: rest) = (c :: (numberTail rest).1, (numberTail rest).2) := by
  unfold numberTail
  rw [List.takeWhile_cons_of_pos digit, List.dropWhile_cons_of_pos digit]
  split
  · split <;> rfl
  · rfl

/-- The first character decides which shape is scanned, and every shape is a lexeme. -/
theorem tokenAt_eq (walked : Walked source position (c :: rest)) (countable : Countable source) :
    tokenAt source c (.at position) (.at position (c :: rest)) =
      match lexeme c rest with
      | .ok (cut, behind) =>
          done (Token.ofLexeme position cut) (.at (position.after cut.raw) behind)
      | .error fault => failed ⟨fault, position.line, position.column⟩ := by
  -- Both try the same shapes in the same order.
  unfold tokenAt lexeme
  by_cases word : isWordStart c = true
  · have part := isWordPart_of_isWordStart word
    rw [if_pos word, if_pos word, word_eq walked countable, List.takeWhile_cons_of_pos part,
      List.dropWhile_cons_of_pos part]
  rw [if_neg word, if_neg word]
  by_cases digit : c.isDigit = true
  · rw [if_pos digit, if_pos digit]
    have all : Walked source position ([] ++ c :: rest) := walked
    have cut := number_eq all countable
    rw [numberTail_digit digit] at cut
    exact cut
  rw [if_neg digit, if_neg digit]
  by_cases sign : c = '-' ∨ c = '+'
  · rw [if_pos sign, if_pos sign, signed_eq walked countable]
    split <;> rfl
  rw [if_neg sign, if_neg sign]
  cases quoteMeaning? c with
  | some meaning =>
      obtain ⟨what, kind⟩ := meaning
      refine (quoted_eq walked countable what kind).trans ?_
      dsimp only
      cases quotedTail c rest <;> rfl
  | none =>
      by_cases compares : isComparison c = true
      · rw [if_pos compares, if_pos compares]
        exact comparison_eq walked countable
      rw [if_neg compares, if_neg compares]
      cases punctuation? c with
      | some kind => exact single_eq walked countable kind
      | none =>
          rw [Mark.fault_at walked countable]
          rfl

/-- Trivia, and then the end of the source, a lexeme, or the fault that stops both. -/
theorem nextToken_eq (walked : Walked source position text) (countable : Countable source) :
    nextToken source (.at position text) =
      match gap text with
      | .error before =>
          failed ⟨.unterminated .blockComment, (position.after before).line,
            (position.after before).column⟩
      | .ok (skipped, []) =>
          done (Token.endAt (position.after skipped)) (.at (position.after skipped) [])
      | .ok (skipped, c :: rest) =>
          match lexeme c rest with
          | .ok (cut, behind) =>
              done (Token.ofLexeme (position.after skipped) cut)
                (.at ((position.after skipped).after cut.raw) behind)
          | .error fault =>
              failed ⟨fault, (position.after skipped).line, (position.after skipped).column⟩ := by
  have trivia := skipTrivia_eq walked countable
  unfold nextToken
  split
  · rename_i before found
    rw [found] at trivia
    exact bind_failed trivia
  · rename_i skipped found
    rw [found] at trivia
    rw [← gap_append found] at walked
    rw [bind_done trivia, bind_done (mark_at ..), bind_done (peek_nil _)]
    have last : Walked source (position.after skipped) ([] ++ []) := walked.after
    exact token_eq last countable .endOfInput
  · rename_i skipped c rest found
    rw [found] at trivia
    rw [← gap_append found] at walked
    rw [bind_done trivia, bind_done (mark_at ..), bind_done (peek_cons ..)]
    exact tokenAt_eq walked.after countable

/-- A turn that goes on adds the token behind those that were found. -/
theorem tokensTurn_lexeme (walked : Walked source position text) (countable : Countable source)
    (before : List Token) {skipped behind : List Char} {cut : Lexeme}
    (found : gap text = .ok (skipped, c :: rest)) (lexed : lexeme c rest = .ok (cut, behind)) :
    tokensTurn source before (.at position text) =
      done (.again (before ++ [Token.ofLexeme (position.after skipped) cut]))
        (.at ((position.after skipped).after cut.raw) behind) := by
  have next := nextToken_eq walked countable
  rw [found] at next
  dsimp only at next
  rw [lexed] at next
  have inner : ¬(Token.ofLexeme (position.after skipped) cut).isEnd = true :=
    fun ends => kind_of_lexeme lexed (eq_of_beq ends)
  unfold tokensTurn
  rw [bind_done next, if_neg inner]
  rfl

/-- Turn by turn, the scanner takes the tokens of what is left. -/
theorem tokenTurns_eq (walked : Walked source position text) (countable : Countable source)
    (before : List Token) :
    loop (tokensTurn source) before (.at position text) =
      match segments text with
      | .error failure =>
          failed ⟨failure.fault, (position.after failure.before).line,
            (position.after failure.before).column⟩
      | .ok (pieces, closing) =>
          done (before ++ place position closing pieces)
            (.at (position.after (pieces.flatMap Segment.text ++ closing)) []) := by
  fun_induction segments text generalizing position before with
  | case1 text before' found =>
      have next := nextToken_eq walked countable
      rw [found] at next
      exact loop_failed (bind_failed next)
  | case2 text skipped found =>
      have next := nextToken_eq walked countable
      rw [found] at next
      exact loop_leave (bind_done next)
  | case3 text skipped c rest found fault cut =>
      have next := nextToken_eq walked countable
      rw [found] at next
      dsimp only at next
      rw [cut] at next
      exact loop_failed (bind_failed next)
  | case4 text skipped c rest found lex behind lexed failure inner ih =>
      have turn := tokensTurn_lexeme walked countable before found lexed
      obtain ⟨further, shorter⟩ := walked.beyond found lexed
      rw [loop_next turn shorter, ih further, inner]
      simp only [LexFailure.behind, Position.after_append]
  | case5 text skipped c rest found lex behind lexed more final inner ih =>
      have turn := tokensTurn_lexeme walked countable before found lexed
      obtain ⟨further, shorter⟩ := walked.beyond found lexed
      rw [loop_next turn shorter, ih further, inner]
      simp only [place, List.flatMap_cons, Segment.text, Position.after_append, List.append_assoc,
        List.singleton_append]

end Scan

end

/-- The scanner ends with the tokens of a source, or with its error. -/
theorem tokenize?_eq {source : String} (countable : Countable source) :
    tokenize? source = some (tokenize source) := by
  have all := Scan.tokenTurns_eq (Walked.start source) countable []
  have ends : Scan.tokens source (.new source) = _ := all
  unfold tokenize? result? tokenize
  rw [ends]
  cases segments source.toList <;> rfl

end AlterRelay.Checked
