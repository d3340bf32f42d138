/-
# AlterRelay.Proofs.Sql.CutUpTo — how far a text is cut, and by what it is moved

`CutUpTo text pieces rest` says that the cutting of a text has given some pieces and
goes on at `rest`. Every text is cut up to its last gap, or up to where no token can
be cut off (`cutUpTo_of_ok`, `cutUpTo_of_error`), and what is cut there comes behind
the pieces (`CutUpTo.segments`).

No scanner looks far ahead. It sees one character behind its token, and one more
behind a point. So a text stays cut the same way if what is left of it is replaced
by a text that shows it nothing new (`Replaces`): one that begins alike, that begins
with a divider, or that is empty (`CutUpTo.replaced`).
-/
import AlterRelay.Proofs.Sql.Respacing

namespace AlterRelay.Sql

open AlterRelay.Text

set_option autoImplicit false

/-! ## Stages of the cutting -/

/-- What cutting a text gives: its pieces and its last gap, or a fault. -/
abbrev CutResult := Except LexFailure (List Segment × List Char)

/-- Cutting has given these pieces, and goes on at `rest`. -/
inductive CutUpTo : List Char → List Segment → List Char → Prop where
  | here (rest : List Char) : CutUpTo rest [] rest
  | more {text skipped rest behind final : List Char} {c : Char} {cut : Lexeme}
      {pieces : List Segment} (found : gap text = .ok (skipped, c :: rest))
      (cutAt : lexeme c rest = .ok (cut, behind)) (further : CutUpTo behind pieces final) :
      CutUpTo text (⟨skipped, cut⟩ :: pieces) final

/-- Pieces in front of what was cut behind them. -/
def inFront (pieces : List Segment) : CutResult → CutResult
  | .error failure => .error (failure.behind (pieces.flatMap Segment.text))
  | .ok (more, closing) => .ok (pieces ++ more, closing)

/-- A text in front of what was cut behind it, as a part of the first gap. -/
def leading (text : List Char) : CutResult → CutResult
  | .error failure => .error (failure.behind text)
  | .ok ([], closing) => .ok ([], text ++ closing)
  | .ok (piece :: pieces, closing) => .ok (⟨text ++ piece.gap, piece.lexeme⟩ :: pieces, closing)

theorem inFront_nil (result : CutResult) : inFront [] result = result := by
  rcases result with failure | ⟨pieces, closing⟩ <;> rfl

theorem inFront_cons (piece : Segment) (pieces : List Segment) (result : CutResult) :
    inFront (piece :: pieces) result = inFront [piece] (inFront pieces result) := by
  rcases result with failure | ⟨more, closing⟩
  · simp [inFront, LexFailure.behind]
  · rfl

/-- No token can be cut off in front of this text. -/
inductive Stuck (text : List Char) : LexFailure → Prop where
  | comment {skipped : List Char} (found : gap text = .error skipped) :
      Stuck text ⟨skipped, .unterminated .blockComment⟩
  | lexeme {skipped rest : List Char} {c : Char} {fault : LexFault}
      (found : gap text = .ok (skipped, c :: rest)) (cutAt : lexeme c rest = .error fault) :
      Stuck text ⟨skipped, fault⟩

theorem segments_cons {text skipped rest behind : List Char} {c : Char} {cut : Lexeme}
    (found : gap text = .ok (skipped, c :: rest)) (cutAt : lexeme c rest = .ok (cut, behind)) :
    segments text = inFront [⟨skipped, cut⟩] (segments behind) := by
  rw [segments]
  split
  · simp_all
  · simp_all
  · rename_i found'
    rw [found] at found'
    cases found'
    split
    · simp_all
    · rename_i cutAt'
      rw [cutAt] at cutAt'
      cases cutAt'
      split <;> simp_all [inFront, Segment.text]

theorem Stuck.segments {text : List Char} {failure : LexFailure} (stuck : Stuck text failure) :
    segments text = .error failure := by
  cases stuck with
  | comment found =>
      rw [Sql.segments]
      split <;> simp_all
  | lexeme found cutAt =>
      rw [Sql.segments]
      split
      · simp_all
      · simp_all
      · rename_i found'
        rw [found] at found'
        cases found'
        split <;> simp_all

theorem cutUpTo_of_ok {text closing : List Char} {pieces : List Segment}
    (cut : segments text = .ok (pieces, closing)) : CutUpTo text pieces closing := by
  fun_induction segments text generalizing pieces closing with
  | case1 => cases cut
  | case2 text skipped found =>
      cases cut
      have whole := gap_append found
      rw [List.append_nil] at whole
      rw [whole]
      exact .here text
  | case3 => cases cut
  | case4 => cases cut
  | case5 text skipped c rest found lex behind cutAt more final inner ih =>
      cases cut
      exact .more found cutAt (ih inner)

/-- A text that cannot be cut is cut up to where it cannot go on. -/
theorem cutUpTo_of_error {text : List Char} {failure : LexFailure}
    (failed : segments text = .error failure) :
    ∃ pieces rest here, CutUpTo text pieces rest ∧ Stuck rest here ∧
      failure = here.behind (pieces.flatMap Segment.text) := by
  fun_induction segments text generalizing failure with
  | case1 text before found =>
      cases failed
      exact ⟨[], text, _, .here text, .comment found, rfl⟩
  | case2 => cases failed
  | case3 text skipped c rest found fault cutAt =>
      cases failed
      exact ⟨[], text, _, .here text, .lexeme found cutAt, rfl⟩
  | case4 text skipped c rest found lex behind cutAt inner failed' ih =>
      cases failed
      obtain ⟨pieces, final, here, further, stuck, rfl⟩ := ih failed'
      refine ⟨⟨skipped, lex⟩ :: pieces, final, here, .more found cutAt further, stuck, ?_⟩
      simp [LexFailure.behind, Segment.text]
  | case5 => cases failed

namespace CutUpTo

variable {text rest : List Char} {pieces : List Segment}

/-- The pieces and what is left of the text, put end to end, are the text. -/
theorem append (cut : CutUpTo text pieces rest) : pieces.flatMap Segment.text ++ rest = text := by
  induction cut with
  | here => rfl
  | more found cutAt further ih =>
      have whole := (lexeme_append cutAt).1
      rw [List.flatMap_cons, List.append_assoc, ih, Segment.text, List.append_assoc, whole]
      exact gap_append found

/-- What is left of the text decides how its cutting ends. -/
theorem segments (cut : CutUpTo text pieces rest) :
    segments text = inFront pieces (segments rest) := by
  induction cut with
  | here => exact (inFront_nil _).symm
  | more found cutAt further ih => rw [segments_cons found cutAt, ih, ← inFront_cons]

end CutUpTo

/-! ## Placing in stages -/

/-- The tokens of some pieces that begin at `position`, with no end behind them. -/
def placeFront (position : Position) : List Segment → List Token
  | [] => []
  | segment :: more =>
      let here := position.after segment.gap
      Token.ofLexeme here segment.lexeme :: placeFront (here.after segment.lexeme.raw) more

theorem place_append (position : Position) (closing : List Char) (pieces more : List Segment) :
    place position closing (pieces ++ more) = placeFront position pieces ++
      place (position.after (pieces.flatMap Segment.text)) closing more := by
  induction pieces generalizing position with
  | nil => rfl
  | cons piece pieces ih =>
      rw [List.cons_append, place, placeFront, List.cons_append, ih, List.flatMap_cons,
        Position.after_append, Segment.text, Position.after_append]

theorem place_eq (position : Position) (closing : List Char) (pieces : List Segment) :
    ∃ final, place position closing pieces = placeFront position pieces ++ [Token.endAt final] := by
  have whole := place_append position closing pieces []
  rw [List.append_nil] at whole
  exact ⟨_, whole⟩

theorem tokenize_of_segments {source : String} {pieces : List Segment} {closing : List Char}
    (cut : segments source.toList = .ok (pieces, closing)) :
    tokenize source = .ok (place .start closing pieces) := by
  rw [tokenize, cut]

theorem tokenize_of_failure {source : String} {failure : LexFailure}
    (failed : segments source.toList = .error failure) :
    tokenize source = .error failure.located := by
  rw [tokenize, failed]

/-! ## Trivia in front -/

theorem gap_ok_of_isTrivia {skipped : List Char} (trivia : IsTrivia false skipped)
    {rest more behind : List Char} (found : gap rest = .ok (more, behind)) :
    gap (skipped ++ rest) = .ok (skipped ++ more, behind) :=
  gap_of_isTrivia trivia (fun last => absurd last Bool.false_ne_true) found

/-- Trivia in front of a token, or of the end, are the whole gap. -/
theorem gap_of_isTrivia_of_absent {skipped : List Char} (trivia : IsTrivia false skipped)
    {rest : List Char} (absent : triviaStep rest = .absent) :
    gap (skipped ++ rest) = .ok (skipped, rest) := by
  have found := gap_ok_of_isTrivia trivia (gap_of_absent absent)
  rwa [List.append_nil] at found

theorem gap_of_unit_error {text skipped rest before : List Char}
    (unit : triviaStep text = .unit skipped rest) (failed : gap rest = .error before) :
    gap text = .error (skipped ++ before) := by
  rw [gap]
  split <;> simp_all

/-- Trivia in front of a comment that is left open are passed over. -/
theorem gap_error_of_isTrivia {skipped : List Char} (trivia : IsTrivia false skipped)
    {rest before : List Char} (failed : gap rest = .error before) :
    gap (skipped ++ rest) = .error (skipped ++ before) := by
  induction trivia with
  | nil => exact failed
  | @blank c tail blank _ ih =>
      have whole := gap_of_unit_error (triviaStep_blank blank (tail ++ rest)) ih
      simpa using whole
  | @line opener body tail opens within ends _ ih =>
      have newline : tail.head? = some '\n' :=
        ends.resolve_right fun last => Bool.false_ne_true last.1
      have ends' : ∀ c ∈ (tail ++ rest).head?, c = '\n' := by
        rw [List.head?_append, newline]
        intro c head
        exact (Option.some.inj head).symm
      have whole := gap_of_unit_error (triviaStep_line opens within ends') ih
      simpa using whole
  | @block body tail within _ ih =>
      have whole := gap_of_unit_error (triviaStep_block within (tail ++ rest)) ih
      simpa using whole

/-- Trivia in front of a text change nothing but its first gap, or what stands in front of
its fault. -/
theorem segments_of_isTrivia {skipped : List Char} (trivia : IsTrivia false skipped)
    (rest : List Char) : segments (skipped ++ rest) = leading skipped (segments rest) := by
  rw [segments.eq_def rest]
  split
  · rename_i before found
    exact (Stuck.comment (gap_error_of_isTrivia trivia found)).segments
  · rename_i more found
    exact segments_of_closing (gap_ok_of_isTrivia trivia found)
  · rename_i more c inner found
    have found' := gap_ok_of_isTrivia trivia found
    split
    · rename_i fault cutAt
      exact (Stuck.lexeme found' cutAt).segments
    · rename_i cut behind cutAt
      rw [segments_cons found' cutAt]
      split
      · rename_i failure failed
        rw [failed]
        simp [inFront, leading, LexFailure.behind, Segment.text]
      · rename_i pieces closing done
        rw [done]
        rfl

/-! ## Texts that show nothing new -/

/-- What begins the one text begins the other, too, unless it is a divider. -/
def Fronts (other text : List Char) : Prop := ∀ c ∈ other.head?, c ∈ text.head? ∨ Divides c

/-- In the place of `text` behind a token, `other` shows a scanner nothing new. -/
structure Replaces (other text : List Char) : Prop where
  first : Fronts other text
  second : text.head? = some '.' → Fronts other.tail text.tail

theorem startsWithDigit_eq_false_iff {text : List Char} :
    startsWithDigit text = false ↔ ∀ c ∈ text.head?, c.isDigit = false := by
  cases text <;> simp [startsWithDigit]

namespace Fronts

variable {other text : List Char}

/-- A stretch that stops in front of the text stops in front of the other. -/
theorem stops (fronts : Fronts other text) {p : Char → Bool}
    (divider : ∀ c, Divides c → p c = false) (stops : ∀ c ∈ text.head?, p c = false) :
    ∀ c ∈ other.head?, p c = false :=
  fun c head => (fronts c head).elim (stops c) (divider c)

/-- The other text does not begin with a character that would go on with a token. -/
theorem head?_ne (fronts : Fronts other text) {c : Char}
    (like : c ∈ ['.', '=', '>', '-', '*', backQuote, singleQuote, doubleQuote])
    (unlike : text.head? ≠ some c) : other.head? ≠ some c :=
  fun head => (fronts c head).elim unlike fun divides => divides.ne like rfl

theorem noDigit (fronts : Fronts other text) (noDigit : startsWithDigit text = false) :
    startsWithDigit other = false :=
  startsWithDigit_eq_false_iff.mpr
    (fronts.stops (fun _ divides => divides.noDigit) (startsWithDigit_eq_false_iff.mp noDigit))

end Fronts

theorem Replaces.append {other text : List Char} (replaces : Replaces other text)
    (front : List Char) : Replaces (front ++ other) (front ++ text) := by
  cases front with
  | nil => exact replaces
  | cons d front =>
      refine ⟨fun c head => .inl head, fun _ => ?_⟩
      cases front with
      | nil => exact replaces.first
      | cons e front => exact fun c head => .inl head

/-- A text may end where what is cut off it begins with no point. -/
theorem Replaces.front {text : List Char} (front : List Char) (noPoint : text.head? ≠ some '.') :
    Replaces front (front ++ text) := by
  have nothing : Replaces [] text := ⟨by simp [Fronts], fun point => absurd point noPoint⟩
  have replaces := nothing.append front
  rwa [List.append_nil] at replaces

/-- A text may go on with a divider where it ended. -/
theorem Replaces.divider {z : Char} (divides : Divides z) (text rest : List Char) :
    Replaces (text ++ z :: rest) text := by
  have further : Replaces (z :: rest) [] := by
    refine ⟨fun c head => .inr ?_, by simp⟩
    cases head
    exact divides
  have replaces := further.append text
  rwa [List.append_nil] at replaces

theorem Replaces.cons {c : Char} (noPoint : c ≠ '.') (other text : List Char) :
    Replaces (c :: other) (c :: text) :=
  ⟨fun _ head => .inl head, fun point => absurd (Option.some.inj point) noPoint⟩

/-! ### Tokens in front of another text -/

theorem span_takeWhile (p : Char → Bool) (text : List Char) {more : List Char}
    (stops : ∀ c ∈ more.head?, p c = false) :
    (text.takeWhile p ++ more).takeWhile p = text.takeWhile p ∧
      (text.takeWhile p ++ more).dropWhile p = more :=
  span_whole List.all_takeWhile stops

theorem stops_dropWhile (p : Char → Bool) (text : List Char) :
    ∀ c ∈ (text.dropWhile p).head?, p c = false := by
  intro c head
  have stop := List.head?_dropWhile_not p text
  rw [head] at stop
  simpa using stop

theorem startsWithDigit_append {front : List Char} (digit : startsWithDigit front = true)
    (more : List Char) : startsWithDigit (front ++ more) = true := by
  cases front with
  | nil => cases digit
  | cons c front => exact digit

/-- A number takes the digits in front, and a fraction if there is one. -/
theorem numberTail_cases (text : List Char) :
    (∃ more, text.dropWhile Char.isDigit = '.' :: more ∧ startsWithDigit more = true ∧
        numberTail text = (text.takeWhile Char.isDigit ++ '.' :: more.takeWhile Char.isDigit,
          more.dropWhile Char.isDigit)) ∨
      numberTail text = (text.takeWhile Char.isDigit, text.dropWhile Char.isDigit) ∧
        ∀ more, text.dropWhile Char.isDigit = '.' :: more → startsWithDigit more = false := by
  unfold numberTail
  split
  · rename_i more point
    by_cases digit : startsWithDigit more = true
    · exact .inl ⟨more, point, digit, by rw [if_pos digit]⟩
    · refine .inr ⟨by rw [if_neg digit, point], fun other same => ?_⟩
      cases point.symm.trans same
      simpa using digit
  · rename_i noPoint
    exact .inr ⟨rfl, fun more point => absurd point (noPoint more)⟩

theorem numberTail_replaced {rest other : List Char}
    (replaces : Replaces other (numberTail rest).2) :
    numberTail ((numberTail rest).1 ++ other) = ((numberTail rest).1, other) := by
  rcases numberTail_cases rest with ⟨more, point, digit, forms⟩ | ⟨forms, noFraction⟩ <;>
    rw [forms] at replaces ⊢ <;> dsimp only at replaces ⊢
  · have stops := replaces.first.stops (fun _ divides => divides.noDigit)
      (stops_dropWhile Char.isDigit more)
    obtain ⟨all, none⟩ := span_takeWhile Char.isDigit more stops
    have point' : ∀ c ∈ ('.' :: (more.takeWhile Char.isDigit ++ other)).head?,
        c.isDigit = false := by simp
    obtain ⟨taken, dropped⟩ := span_takeWhile Char.isDigit rest point'
    -- the digits of the fraction come along with the number
    have digit' := startsWithDigit_append ((startsWithDigit_takeWhile more).trans digit) other
    unfold numberTail
    rw [List.append_assoc, List.cons_append, taken, dropped]
    simp only [if_pos digit', all, none]
  · have stops := replaces.first.stops (fun _ divides => divides.noDigit)
      (stops_dropWhile Char.isDigit rest)
    obtain ⟨taken, dropped⟩ := span_takeWhile Char.isDigit rest stops
    unfold numberTail
    rw [taken, dropped]
    split
    · rename_i behind
      -- a point is left here only where one was left before, and it had no digit behind it
      have point : (rest.dropWhile Char.isDigit).head? = some '.' := by
        by_contra unlike
        exact replaces.first.head?_ne (by decide) unlike rfl
      have further := replaces.second point
      obtain ⟨inner, same⟩ := List.head?_eq_some_iff.mp point
      rw [same] at further
      have noDigit := further.noDigit (noFraction inner same)
      rw [List.tail_cons] at noDigit
      simp [noDigit]
    · rfl

theorem quotedTail_stops {quote : Char} {text : List Char} {tail : QuotedTail}
    (closed : quotedTail quote text = some tail) : tail.rest.head? ≠ some quote := by
  fun_induction quotedTail quote text generalizing tail with
  | case1 => cases closed
  | case2 =>
      cases closed
      simp
  | case3 => cases closed
  | case4 rest ih =>
      obtain ⟨inner, found, rfl⟩ := Option.map_eq_some_iff.mp closed
      have stops := ih found
      exact stops
  | case5 d rest other =>
      cases closed
      simpa using other
  | case6 c d rest notQuote escape ih =>
      obtain ⟨inner, found, rfl⟩ := Option.map_eq_some_iff.mp closed
      have stops := ih found
      exact stops
  | case7 c d rest notQuote noEscape ih =>
      obtain ⟨inner, found, rfl⟩ := Option.map_eq_some_iff.mp closed
      have stops := ih found
      exact stops

/-- An operator takes the `=` behind it, or the `>` behind `<`. -/
theorem comparisonTail_cases (c : Char) (text : List Char) :
    (∃ d more, (d = '=' ∨ c = '<' ∧ d = '>') ∧ comparisonTail c text = ([d], more)) ∨
      (text.head? ≠ some '=' ∧ (c = '<' → text.head? ≠ some '>')) ∧
        comparisonTail c text = ([], text) := by
  unfold comparisonTail
  split
  · exact .inl ⟨'=', _, .inl rfl, rfl⟩
  · by_cases less : c = '<'
    · exact .inl ⟨'>', _, .inr ⟨less, rfl⟩, by rw [if_pos less]⟩
    · exact .inr ⟨⟨by simp, fun less' => absurd less' less⟩, by rw [if_neg less]⟩
  · rename_i noEquals noGreater
    refine .inr ⟨⟨fun equals => ?_, fun _ greater => ?_⟩, rfl⟩
    · obtain ⟨more, same⟩ := List.head?_eq_some_iff.mp equals
      exact noEquals more same
    · obtain ⟨more, same⟩ := List.head?_eq_some_iff.mp greater
      exact noGreater more same

theorem comparisonTail_replaced (c : Char) {rest other : List Char}
    (fronts : Fronts other (comparisonTail c rest).2) :
    comparisonTail c ((comparisonTail c rest).1 ++ other) =
      ((comparisonTail c rest).1, other) := by
  rcases comparisonTail_cases c rest with ⟨d, more, takes, forms⟩ | ⟨⟨noEquals, noGreater⟩, forms⟩
  · rw [forms]
    rcases takes with rfl | ⟨rfl, rfl⟩ <;> rfl
  · rw [forms] at fronts ⊢
    rcases comparisonTail_cases c other with ⟨d, more, takes, forms'⟩ | ⟨-, forms'⟩
    · have head : other.head? = some d := by
        have whole := comparisonTail_append c other
        rw [forms'] at whole
        rw [← whole]
        rfl
      rcases takes with rfl | ⟨less, rfl⟩
      · exact absurd head (fronts.head?_ne (by decide) noEquals)
      · exact absurd head (fronts.head?_ne (by decide) (noGreater less))
    · exact forms'

/-- A token is the same token in front of another text that shows nothing new. -/
theorem lexeme_replaced {c : Char} {rest behind other : List Char} {cut : Lexeme}
    (found : lexeme c rest = .ok (cut, behind)) (replaces : Replaces other behind) :
    ∃ raw, cut.raw = c :: raw ∧ lexeme c (raw ++ other) = .ok (cut, other) := by
  unfold lexeme at found
  by_cases word : isWordStart c = true
  · rw [if_pos word] at found
    cases found
    have stops := replaces.first.stops (fun _ divides => divides.noPart)
      (stops_dropWhile isWordPart rest)
    obtain ⟨taken, dropped⟩ := span_takeWhile isWordPart rest stops
    exact ⟨_, rfl, by rw [lexeme, if_pos word, taken, dropped]⟩
  rw [if_neg word] at found
  by_cases numeral : c.isDigit = true
  · rw [if_pos numeral] at found
    cases found
    exact ⟨_, rfl, by rw [lexeme, if_neg word, if_pos numeral, numberTail_replaced replaces]⟩
  rw [if_neg numeral] at found
  by_cases sign : c = '-' ∨ c = '+'
  · rw [if_pos sign] at found
    split at found <;> rename_i next
    · cases found
      have digit := startsWithDigit_append (startsWithDigit_numberTail next) other
      refine ⟨_, rfl, ?_⟩
      rw [lexeme, if_neg word, if_neg numeral, if_pos sign, if_pos digit,
        numberTail_replaced replaces]
    · cases found
      have noDigit := replaces.first.noDigit (by simpa using next)
      exact ⟨[], rfl, by simp [lexeme, word, numeral, sign, noDigit]⟩
  rw [if_neg sign] at found
  cases meaning : quoteMeaning? c with
  | some quoted =>
      simp only [meaning] at found
      split at found
      · rename_i closed
        cases found
        -- No further quote stood behind the literal, and none does now.
        have stops : other.head? ≠ some c := by
          refine replaces.first.head?_ne ?_ (quotedTail_stops closed)
          rcases isQuote_of_quoteMeaning? meaning with rfl | rfl | rfl <;> decide
        have closed' := quotedTail_before (quotedTail_alone closed) stops
        refine ⟨_, rfl, ?_⟩
        rw [lexeme, if_neg word, if_neg numeral, if_neg sign]
        simp only [meaning, closed', List.nil_append]
      · cases found
  | none =>
      simp only [meaning] at found
      by_cases compared : isComparison c = true
      · rw [if_pos compared] at found
        cases found
        refine ⟨_, rfl, ?_⟩
        rw [lexeme, if_neg word, if_neg numeral, if_neg sign]
        simp only [meaning, if_pos compared, comparisonTail_replaced c replaces.first]
      rw [if_neg compared] at found
      split at found
      · rename_i mark
        cases found
        refine ⟨[], rfl, ?_⟩
        rw [lexeme, if_neg word, if_neg numeral, if_neg sign]
        simp only [meaning, if_neg compared, mark, List.nil_append]
      · cases found

theorem startsLineComment_eq_false_iff {c : Char} {rest : List Char} :
    startsLineComment (c :: rest) = false ↔ c ≠ '#' ∧ (c = '-' → rest.head? ≠ some '-') := by
  by_cases hash : c = '#'
  · simp [startsLineComment, hash]
  · cases rest with
    | nil => simp [startsLineComment, hash]
    | cons d rest =>
        by_cases dash : c = '-' <;> by_cases further : d = '-' <;>
          simp [startsLineComment, hash, dash, further]

/-- Where a token begins, it begins if what is behind its first character shows nothing new. -/
theorem triviaStep_absent_replaced {c : Char} {rest other : List Char}
    (absent : triviaStep (c :: rest) = .absent) (fronts : Fronts other rest) :
    triviaStep (c :: other) = .absent := by
  obtain ⟨noLine, noBlock, solid⟩ := triviaStep_eq_absent_iff.mp absent
  obtain ⟨hash, dashes⟩ := startsLineComment_eq_false_iff.mp noLine
  refine triviaStep_eq_absent_iff.mpr ⟨?_, ?_, solid⟩
  · refine startsLineComment_eq_false_iff.mpr ⟨hash, fun dash => ?_⟩
    exact fronts.head?_ne (by decide) (dashes dash)
  · rintro body same
    obtain ⟨rfl, rfl⟩ := List.cons.inj same
    refine fronts.head?_ne (c := '*') (by decide) (fun star => ?_) rfl
    obtain ⟨inner, rfl⟩ := List.head?_eq_some_iff.mp star
    exact noBlock inner rfl

/-- Cutting up to a text goes the same way if another text stands in its place that shows
nothing new. -/
theorem CutUpTo.replaced {text rest other : List Char} {pieces : List Segment}
    (cut : CutUpTo text pieces rest) (replaces : Replaces other rest) :
    CutUpTo (pieces.flatMap Segment.text ++ other) pieces other := by
  induction cut with
  | here => exact .here other
  | @more text skipped rest behind final c cut pieces found cutAt further ih =>
      -- the further pieces stand in front of either text, so what is seen behind this token
      -- shows nothing new if what is seen behind all of them does not
      have behind' := replaces.append (pieces.flatMap Segment.text)
      rw [further.append] at behind'
      obtain ⟨raw, same, cutAt'⟩ := lexeme_replaced cutAt behind'
      have whole := (lexeme_append cutAt).1
      rw [same, List.cons_append] at whole
      have split := (List.cons.inj whole).2
      have front := triviaStep_absent_replaced (triviaStep_of_gap found)
        (split ▸ (behind'.append raw).first)
      have found' := gap_of_isTrivia_of_absent (isTrivia_of_gap found) front
      have text' : (⟨skipped, cut⟩ :: pieces : List Segment).flatMap Segment.text ++ other =
          skipped ++ c :: (raw ++ (pieces.flatMap Segment.text ++ other)) := by
        simp [Segment.text, same]
      rw [text']
      exact .more found' cutAt' (ih replaces)

end AlterRelay.Sql
