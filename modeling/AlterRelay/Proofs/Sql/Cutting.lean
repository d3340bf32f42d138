/-
# AlterRelay.Proofs.Sql.Cutting — how a text is cut where a further text follows

`CutInto text lexemes` says that a text is cut into these lexemes, whatever
trivia stand around them. A blank, a comma or a parenthesis extends no lexeme and
opens no comment (`Divides`), so a text that is cut stays cut the same way in front
of one (`lexeme_before`, `gap_before`, `segments_before`). Two texts with a newline
between them are cut apart (`CutInto.append_newline`): the newline also ends a
line comment that the first text has left open.

The tokens of a source are its lexemes with their places, and the end
(`cutInto_iff_tokenize`).
-/
import AlterRelay.Sql.Source

namespace AlterRelay.Sql

open AlterRelay.Text

set_option autoImplicit false

/-! ## Stretches -/

/-- A stretch ends where it ended, if it did not reach the end of its text or cannot go on
in the text behind it. -/
theorem span_before (p : Char → Bool) (text more : List Char)
    (stops : text.dropWhile p ≠ [] ∨ ∀ c ∈ more.head?, p c = false) :
    (text ++ more).takeWhile p = text.takeWhile p ∧
      (text ++ more).dropWhile p = text.dropWhile p ++ more := by
  induction text with
  | nil =>
      cases more with
      | nil => exact ⟨rfl, rfl⟩
      | cons c more => simp_all
  | cons c text ih =>
      by_cases goes : p c = true
      · simp only [List.cons_append, List.takeWhile_cons_of_pos goes,
          List.dropWhile_cons_of_pos goes] at stops ⊢
        obtain ⟨taken, dropped⟩ := ih stops
        exact ⟨by rw [taken], dropped⟩
      · simp [goes]

/-! ## Blanks -/

theorem ne_of_isBlank {z c : Char} (blank : isBlank z = true) (solid : isBlank c = false) :
    z ≠ c := by
  rintro rfl
  rw [blank] at solid
  cases solid

/-- The code points of the white space. -/
def blankCodes : List Nat :=
  blankRanges.flatMap fun range => List.range' range.1 (range.2 + 1 - range.1)

/-- The table has all blanks, so what holds of its codes holds of every blank. -/
theorem mem_blankCodes {z : Char} (blank : isBlank z = true) : z.toNat ∈ blankCodes := by
  unfold isBlank inRanges at blank
  obtain ⟨range, listed, inside⟩ := List.any_eq_true.mp blank
  simp only [Bool.and_eq_true, decide_eq_true_eq] at inside
  refine List.mem_flatMap.mpr ⟨range, listed, ?_⟩
  rw [List.mem_range'_1]
  omega

/-- No blank continues a word. -/
theorem isWordPart_of_isBlank {z : Char} (blank : isBlank z = true) : isWordPart z = false := by
  have checked : ∀ code ∈ blankCodes, isWordPart (Char.ofNat code) = false := by decide +kernel
  rw [← Char.ofNat_toNat z]
  exact checked z.toNat (mem_blankCodes blank)

/-- A digit is a part of a word, which no blank is. -/
theorem isDigit_of_isBlank {z : Char} (blank : isBlank z = true) : z.isDigit = false := by
  have checked : ∀ code ∈ blankCodes, (Char.ofNat code).isDigit = false := by decide +kernel
  rw [← Char.ofNat_toNat z]
  exact checked z.toNat (mem_blankCodes blank)

/-! ## Dividers -/

/-- A character that goes on with no lexeme in front of it, and makes no comment of one. -/
structure Divides (z : Char) : Prop where
  noPart : isWordPart z = false
  noDigit : z.isDigit = false
  unlike : z ∉ ['.', '=', '>', '-', '*', backQuote, singleQuote, doubleQuote]

theorem Divides.of_isBlank {z : Char} (blank : isBlank z = true) : Divides z where
  noPart := isWordPart_of_isBlank blank
  noDigit := isDigit_of_isBlank blank
  unlike := by
    simp only [List.mem_cons, List.not_mem_nil, or_false]
    rintro (rfl | rfl | rfl | rfl | rfl | rfl | rfl | rfl) <;> exact absurd blank (by decide)

theorem divides_space : Divides ' ' := .of_isBlank (by decide)

/-- Parentheses and commas divide. -/
theorem divides_of_mark {z : Char} (mark : z ∈ ['(', ')', ',']) : Divides z := by
  simp only [List.mem_cons, List.not_mem_nil, or_false] at mark
  rcases mark with rfl | rfl | rfl <;> exact ⟨by decide, by decide, by decide⟩

theorem Divides.ne {z c : Char} (divides : Divides z)
    (like : c ∈ ['.', '=', '>', '-', '*', backQuote, singleQuote, doubleQuote]) : z ≠ c := by
  rintro rfl
  exact divides.unlike like

/-! ## Gaps -/

theorem triviaStep_blank {z : Char} (blank : isBlank z = true) (rest : List Char) :
    triviaStep (z :: rest) = .unit [z] rest := by
  have hash : z ≠ '#' := ne_of_isBlank blank (by decide)
  have dash : z ≠ '-' := ne_of_isBlank blank (by decide)
  have slash : z ≠ '/' := ne_of_isBlank blank (by decide)
  simp [triviaStep, startsLineComment, hash, dash, slash, blank]

theorem gap_of_absent {text : List Char} (absent : triviaStep text = .absent) :
    gap text = .ok ([], text) := by
  rw [gap]
  split <;> simp_all

/-- A unit of trivia is skipped with what follows it. -/
theorem gap_of_unit {text skipped rest more behind : List Char}
    (unit : triviaStep text = .unit skipped rest) (found : gap rest = .ok (more, behind)) :
    gap text = .ok (skipped ++ more, behind) := by
  rw [gap]
  split <;> simp_all

theorem gap_blank {z : Char} (blank : isBlank z = true) {rest skipped behind : List Char}
    (found : gap rest = .ok (skipped, behind)) : gap (z :: rest) = .ok (z :: skipped, behind) :=
  gap_of_unit (triviaStep_blank blank rest) found

/-- A text begins with a token if no comment opens there and no blank stands there. -/
theorem triviaStep_eq_absent_iff {text : List Char} :
    triviaStep text = .absent ↔
      startsLineComment text = false ∧ (∀ body, text ≠ '/' :: '*' :: body) ∧
        ∀ c ∈ text.head?, isBlank c = false := by
  unfold triviaStep
  by_cases comment : startsLineComment text = true
  · simp [comment]
  rw [if_neg comment]
  split
  · split <;> simp
  · rename_i c rest notBlock
    by_cases blank : isBlank c = true
    · simp [blank]
    · simpa [blank, comment] using notBlock
  · simp [comment]

/-- A divider is no dash, so it opens no comment with a dash in front of it. -/
theorem startsLineComment_before {z : Char} (divides : Divides z) (c : Char)
    (text rest : List Char) :
    startsLineComment (c :: (text ++ z :: rest)) = startsLineComment (c :: text) := by
  have dash : z ≠ '-' := divides.ne (by decide)
  cases text with
  | nil => by_cases hash : c = '#' <;> simp [startsLineComment, hash, dash]
  | cons d text => by_cases hash : c = '#' <;> by_cases first : c = '-' <;>
      by_cases second : d = '-' <;> simp [startsLineComment, hash, first, second]

/-- Where no trivia begin, none begin with a divider put behind. -/
theorem triviaStep_absent_before {z c : Char} (divides : Divides z)
    {text : List Char} (absent : triviaStep (c :: text) = .absent) (rest : List Char) :
    triviaStep (c :: (text ++ z :: rest)) = .absent := by
  obtain ⟨noLine, noBlock, solid⟩ := triviaStep_eq_absent_iff.mp absent
  refine triviaStep_eq_absent_iff.mpr ⟨?_, ?_, solid⟩
  · rw [startsLineComment_before divides, noLine]
  · intro body opened
    have star : z ≠ '*' := divides.ne (by decide)
    cases text with
    | nil => simp_all
    | cons d text => simp_all

/-! ### A gap in front of a further text -/

/-- A comment that is closed stays closed where it was. -/
theorem blockTail_before {text body behind : List Char}
    (closed : blockTail text = some (body, behind)) (more : List Char) :
    blockTail (text ++ more) = some (body, behind ++ more) := by
  fun_induction blockTail text generalizing body behind with
  | case1 => cases closed
  | case2 rest =>
      cases closed
      rfl
  | case3 c rest notCloser ih =>
      obtain ⟨⟨inner, behind'⟩, found, same⟩ := Option.map_eq_some_iff.mp closed
      cases same
      cases rest with
      | nil => cases found
      | cons d rest =>
          have open' : ¬(c = '*' ∧ d = '/') := by
            rintro ⟨rfl, rfl⟩
            exact notCloser rest rfl rfl
          rw [List.cons_append, List.cons_append, blockTail.eq_3 _ _ (by simpa using open')]
          rw [← List.cons_append, ih found]
          rfl

/-- A unit of trivia that ends before its text does, or in front of a newline, is the same
unit in front of a further text. -/
theorem triviaStep_unit_before {text skipped rest more : List Char}
    (unit : triviaStep text = .unit skipped rest)
    (ends : rest ≠ [] ∨ more.head? = some '\n') :
    triviaStep (text ++ more) = .unit skipped (rest ++ more) := by
  unfold triviaStep at unit
  split at unit
  · rename_i comment
    cases unit
    have comment' : startsLineComment (text ++ more) = true := by
      unfold startsLineComment at comment ⊢
      split at comment <;> simp_all
    have stops : text.dropWhile (· != '\n') ≠ [] ∨ ∀ c ∈ more.head?, (c != '\n') = false := by
      rcases ends with inside | newline
      · exact .inl inside
      · exact .inr (by simp [newline])
    obtain ⟨taken, dropped⟩ := span_before _ text more stops
    unfold triviaStep
    rw [if_pos comment', taken, dropped]
  · split at unit
    · split at unit
      · cases unit
      · rename_i closed
        cases unit
        simp [triviaStep, startsLineComment, blockTail_before closed]
    · split at unit
      · rename_i blank
        cases unit
        exact triviaStep_blank blank _
      · cases unit
    · cases unit

/-- A gap with a lexeme behind it stays as it is. -/
theorem gap_before {z : Char} (divides : Divides z) {text skipped found : List Char}
    {c : Char} (cut : gap text = .ok (skipped, c :: found)) (rest : List Char) :
    gap (text ++ z :: rest) = .ok (skipped, c :: (found ++ z :: rest)) := by
  fun_induction gap text generalizing skipped c found with
  | case1 text absent =>
      cases cut
      exact gap_of_absent (triviaStep_absent_before divides absent rest)
  | case2 => cases cut
  | case3 text unit behind step more final inner ih =>
      cases cut
      have inside : behind ≠ [] := by
        rintro rfl
        have := gap_append inner
        simp at this
      exact gap_of_unit (triviaStep_unit_before step (.inl inside)) (ih inner)
  | case4 => cases cut

/-- A newline ends whatever line comment a gap has left open. -/
theorem gap_before_newline {text skipped rest more behind : List Char}
    (closing : gap text = .ok (skipped, [])) (next : gap rest = .ok (more, behind)) :
    gap (text ++ '\n' :: rest) = .ok (skipped ++ '\n' :: more, behind) := by
  fun_induction gap text generalizing skipped with
  | case1 text absent =>
      cases closing
      exact gap_blank (by decide) next
  | case2 => cases closing
  | case3 text unit rest' step more' final inner ih =>
      cases closing
      rw [List.append_assoc]
      exact gap_of_unit (triviaStep_unit_before step (.inr rfl)) (ih inner)
  | case4 => cases closing

/-! ## Lexemes -/

theorem startsWithDigit_before (text : List Char) {more : List Char}
    (stops : ∀ c ∈ more.head?, c.isDigit = false) :
    startsWithDigit (text ++ more) = startsWithDigit text := by
  cases text with
  | cons c text => rfl
  | nil =>
      cases more with
      | nil => rfl
      | cons c more => exact stops c rfl

/-- Neither digit nor point goes on with a number. -/
theorem numberTail_before (text : List Char) {more : List Char}
    (stops : ∀ c ∈ more.head?, c.isDigit = false ∧ c ≠ '.') :
    numberTail (text ++ more) = ((numberTail text).1, (numberTail text).2 ++ more) := by
  obtain ⟨taken, dropped⟩ := span_before Char.isDigit text more
    (.inr fun c head => (stops c head).1)
  unfold numberTail
  rw [taken, dropped]
  cases behind : text.dropWhile Char.isDigit with
  | nil =>
      cases more with
      | nil => rfl
      | cons c more => simp [(stops c rfl).2]
  | cons c rest =>
      by_cases point : c = '.'
      · subst point
        obtain ⟨taken', dropped'⟩ := span_before Char.isDigit rest more
          (.inr fun c head => (stops c head).1)
        have digit := startsWithDigit_before rest fun c head => (stops c head).1
        simp only [List.cons_append, digit, taken', dropped']
        split <;> simp
      · simp [point]

/-- A literal that is closed stays closed, unless the same quote follows and doubles it. -/
theorem quotedTail_before {quote : Char} {text more : List Char} {tail : QuotedTail}
    (closed : quotedTail quote text = some tail) (stops : more.head? ≠ some quote) :
    quotedTail quote (text ++ more) = some ⟨tail.value, tail.raw, tail.rest ++ more⟩ := by
  fun_induction quotedTail quote text generalizing tail with
  | case1 => cases closed
  | case2 =>
      cases closed
      cases more with
      | nil => simp [quotedTail]
      | cons c more =>
          have other : c ≠ quote := by simpa using stops
          simp [quotedTail, other]
  | case3 => cases closed
  | case4 rest ih =>
      obtain ⟨inner, found, rfl⟩ := Option.map_eq_some_iff.mp closed
      simp [quotedTail, ih found, QuotedTail.push]
  | case5 d rest other =>
      cases closed
      simp [quotedTail, other]
  | case6 c d rest notQuote escape ih =>
      obtain ⟨inner, found, rfl⟩ := Option.map_eq_some_iff.mp closed
      rw [List.cons_append, List.cons_append, quotedTail, if_neg notQuote, if_pos escape, ih found]
      rfl
  | case7 c d rest notQuote noEscape ih =>
      obtain ⟨inner, found, rfl⟩ := Option.map_eq_some_iff.mp closed
      rw [List.cons_append, List.cons_append, quotedTail, if_neg notQuote, if_neg noEscape]
      rw [← List.cons_append, ih found]
      rfl

theorem comparisonTail_before (c : Char) (text : List Char) {more : List Char}
    (stops : ∀ d ∈ more.head?, d ≠ '=' ∧ d ≠ '>') :
    comparisonTail c (text ++ more) =
      ((comparisonTail c text).1, (comparisonTail c text).2 ++ more) := by
  cases text with
  | nil =>
      cases more with
      | nil => rfl
      | cons d more =>
          obtain ⟨notEquals, notGreater⟩ := stops d rfl
          simp [comparisonTail, notEquals, notGreater]
  | cons d text =>
      by_cases equals : d = '='
      · simp [comparisonTail, equals]
      by_cases greater : d = '>'
      · by_cases less : c = '<' <;> simp [comparisonTail, greater, less]
      · simp [comparisonTail, equals, greater]

theorem isQuote_of_quoteMeaning? {c : Char} {meaning : Delimited × (String → TokenKind)}
    (quote : quoteMeaning? c = some meaning) :
    c = backQuote ∨ c = singleQuote ∨ c = doubleQuote := by
  unfold quoteMeaning? at quote
  split at quote
  · exact .inl ‹_›
  split at quote
  · exact .inr (.inl ‹_›)
  split at quote
  · exact .inr (.inr ‹_›)
  · cases quote

/-- A divider goes on with no lexeme. -/
theorem lexeme_before {z c : Char} (divides : Divides z)
    {text behind : List Char} {cut : Lexeme} (found : lexeme c text = .ok (cut, behind))
    (rest : List Char) : lexeme c (text ++ z :: rest) = .ok (cut, behind ++ z :: rest) := by
  have noPart := divides.noPart
  have noDigit := divides.noDigit
  have noPoint : z ≠ '.' := divides.ne (by decide)
  have noEquals : z ≠ '=' := divides.ne (by decide)
  have noGreater : z ≠ '>' := divides.ne (by decide)
  have stopsDigits : ∀ d ∈ (z :: rest).head?, d.isDigit = false ∧ d ≠ '.' := by
    simp [noDigit, noPoint]
  have stopsOperators : ∀ d ∈ (z :: rest).head?, d ≠ '=' ∧ d ≠ '>' := by
    simp [noEquals, noGreater]
  -- Every shape looks behind itself through one of the next four facts.
  obtain ⟨wordTaken, wordDropped⟩ := span_before isWordPart text (z :: rest)
    (.inr (by simpa using noPart))
  have number := numberTail_before text stopsDigits
  have digit := startsWithDigit_before text fun d head => (stopsDigits d head).1
  have comparison := comparisonTail_before c text stopsOperators
  unfold lexeme at found ⊢
  simp only [wordTaken, wordDropped, number, digit, comparison]
  by_cases word : isWordStart c = true
  · rw [if_pos word] at found ⊢
    cases found
    rfl
  rw [if_neg word] at found ⊢
  by_cases numeral : c.isDigit = true
  · rw [if_pos numeral] at found ⊢
    cases found
    rfl
  rw [if_neg numeral] at found ⊢
  by_cases sign : c = '-' ∨ c = '+'
  · rw [if_pos sign] at found ⊢
    split at found <;> rename_i next
    · rw [if_pos next]
      cases found
      rfl
    · rw [if_neg next]
      cases found
      rfl
  rw [if_neg sign] at found ⊢
  cases meaning : quoteMeaning? c with
  | some quoted =>
      simp only [meaning] at found ⊢
      have notQuote : z ≠ c := by
        rcases isQuote_of_quoteMeaning? meaning with rfl | rfl | rfl <;>
          exact divides.ne (by decide)
      split at found
      · rename_i closed
        cases found
        rw [quotedTail_before closed (by simpa using notQuote)]
      · cases found
  | none =>
      simp only [meaning] at found ⊢
      by_cases compared : isComparison c = true
      · rw [if_pos compared] at found ⊢
        cases found
        rfl
      rw [if_neg compared] at found ⊢
      split at found
      · cases found
        rfl
      · cases found

/-! ## Texts cut into lexemes -/

/-- The text is cut into exactly these lexemes, with any trivia between them. -/
def CutInto (text : List Char) (lexemes : List Lexeme) : Prop :=
  ∃ pieces closing,
    segments text = .ok (pieces, closing) ∧ pieces.map Segment.lexeme = lexemes

/-- A closed text is cut by evaluation. -/
theorem cutInto_of_toOption {text : List Char} {lexemes : List Lexeme}
    (cut : (segments text).toOption.map (·.1.map Segment.lexeme) = some lexemes) :
    CutInto text lexemes := by
  unfold CutInto
  cases pieces : segments text with
  | error fault =>
      rw [pieces] at cut
      cases cut
  | ok result =>
      rw [pieces] at cut
      exact ⟨result.1, result.2, rfl, Option.some.inj cut⟩

/-- A text of trivia alone has no pieces. -/
theorem segments_of_closing {text skipped : List Char} (found : gap text = .ok (skipped, [])) :
    segments text = .ok ([], skipped) := by
  rw [segments]
  split <;> simp_all

/-- A gap, a lexeme, and the pieces behind them. -/
theorem segments_of_lexeme {text skipped rest behind closing : List Char} {c : Char}
    {cut : Lexeme} {more : List Segment} (found : gap text = .ok (skipped, c :: rest))
    (here : lexeme c rest = .ok (cut, behind)) (next : segments behind = .ok (more, closing)) :
    segments text = .ok (⟨skipped, cut⟩ :: more, closing) := by
  rw [segments]
  split
  · simp_all
  · simp_all
  · rename_i found'
    rw [found] at found'
    cases found'
    split
    · simp_all
    · rename_i here'
      rw [here] at here'
      cases here'
      rw [next]

/-- A text that is cut goes on being cut at a divider that follows it. -/
theorem segments_before {z : Char} (divides : Divides z) {text closing rest : List Char}
    {pieces : List Segment} (cut : segments text = .ok (pieces, closing)) {more : List Segment}
    {final : List Char} (next : segments (closing ++ z :: rest) = .ok (more, final)) :
    segments (text ++ z :: rest) = .ok (pieces ++ more, final) := by
  fun_induction segments text generalizing pieces closing with
  | case1 => cases cut
  | case2 text skipped found =>
      cases cut
      have whole := gap_append found
      rw [List.append_nil] at whole
      rwa [← whole]
  | case3 => cases cut
  | case4 => cases cut
  | case5 text skipped c inner found lex behind cutAt others ending final' ih =>
      cases cut
      exact segments_of_lexeme (gap_before divides found rest)
        (lexeme_before divides cutAt rest) (ih final' next)

/-- What closes a cut text is trivia alone. -/
theorem gap_closing {text closing : List Char} {pieces : List Segment}
    (cut : segments text = .ok (pieces, closing)) : gap closing = .ok (closing, []) := by
  fun_induction segments text generalizing pieces closing with
  | case1 => cases cut
  | case2 text skipped found =>
      cases cut
      have whole := gap_append found
      rw [List.append_nil] at whole
      rwa [← whole] at found
  | case3 => cases cut
  | case4 => cases cut
  | case5 text skipped c inner found lex behind cutAt others ending final ih =>
      cases cut
      exact ih final

/-- The piece is what was cut off in front of some text: a gap, and a lexeme behind it. -/
def IsCut (piece : Segment) : Prop :=
  ∃ text c rest behind, gap text = .ok (piece.gap, c :: rest) ∧
    lexeme c rest = .ok (piece.lexeme, behind)

/-- Every piece was cut off somewhere. -/
theorem isCut_of_segments {text closing : List Char} {pieces : List Segment}
    (cut : segments text = .ok (pieces, closing)) : ∀ piece ∈ pieces, IsCut piece := by
  fun_induction segments text generalizing pieces closing with
  | case1 => cases cut
  | case2 =>
      cases cut
      intro piece member
      cases member
  | case3 => cases cut
  | case4 => cases cut
  | case5 text skipped c inner found lex behind cutAt others ending final ih =>
      cases cut
      exact List.forall_mem_cons.mpr ⟨⟨text, c, inner, behind, found, cutAt⟩, ih final⟩

/-- What holds of every lexeme that can be cut holds of the pieces of a source. -/
theorem forall_segments {property : Lexeme → Prop} {text closing : List Char}
    {pieces : List Segment} (cut : segments text = .ok (pieces, closing))
    (each : ∀ {c rest behind cut}, lexeme c rest = .ok (cut, behind) → property cut) :
    ∀ piece ∈ pieces, property piece.lexeme := by
  intro piece member
  obtain ⟨_, _, _, _, -, cutAt⟩ := isCut_of_segments cut piece member
  exact each cutAt

/-- What can be cut off in front of a text that begins with `c`, and what is left of it. -/
inductive CutOff (c : Char) (rest : List Char) : Lexeme → List Char → Prop where
  | word (start : isWordStart c = true) :
      CutOff c rest ⟨.word, c :: rest.takeWhile isWordPart⟩ (rest.dropWhile isWordPart)
  | number (digit : c.isDigit = true ∨ (c = '-' ∨ c = '+') ∧ startsWithDigit rest = true) :
      CutOff c rest ⟨.number, c :: (numberTail rest).1⟩ (numberTail rest).2
  | sign (sign : c = '-' ∨ c = '+') : CutOff c rest ⟨.operator, [c]⟩ rest
  | quoted {what : Delimited} {kind : String → TokenKind} {tail : QuotedTail}
      (meaning : quoteMeaning? c = some (what, kind)) (closed : quotedTail c rest = some tail) :
      CutOff c rest ⟨kind (String.ofList tail.value), c :: tail.raw⟩ tail.rest
  | comparison (compares : isComparison c = true) :
      CutOff c rest ⟨.operator, c :: (comparisonTail c rest).1⟩ (comparisonTail c rest).2
  | mark {kind : TokenKind} (mark : punctuation? c = some kind) : CutOff c rest ⟨kind, [c]⟩ rest

/-- A lexeme is cut off in one of these ways, as its first character decides. -/
theorem cutOff_of_lexeme {c : Char} {rest behind : List Char} {cut : Lexeme}
    (found : lexeme c rest = .ok (cut, behind)) : CutOff c rest cut behind := by
  unfold lexeme at found
  split at found
  · rename_i start
    cases found
    exact .word start
  split at found
  · rename_i digit
    cases found
    exact .number (.inl digit)
  split at found
  · rename_i sign
    split at found
    · rename_i digit
      cases found
      exact .number (.inr ⟨sign, digit⟩)
    · cases found
      exact .sign sign
  split at found
  · rename_i what kind meaning
    split at found
    · rename_i tail closed
      cases found
      exact .quoted meaning closed
    · cases found
  split at found
  · rename_i compares
    cases found
    exact .comparison compares
  split at found
  · rename_i kind mark
    cases found
    exact .mark mark
  · cases found

theorem kind_of_quoteMeaning? {c : Char} {what : Delimited} {kind : String → TokenKind}
    (meaning : quoteMeaning? c = some (what, kind)) :
    kind = .quotedIdent ∨ kind = .string ∨ kind = .doubleQuoted := by
  unfold quoteMeaning? at meaning
  split at meaning
  · cases meaning
    exact .inl rfl
  split at meaning
  · cases meaning
    exact .inr (.inl rfl)
  split at meaning
  · cases meaning
    exact .inr (.inr rfl)
  · cases meaning

/-- No lexeme is an end of input. -/
theorem kind_of_lexeme {c : Char} {rest behind : List Char} {cut : Lexeme}
    (found : lexeme c rest = .ok (cut, behind)) : cut.kind ≠ .endOfInput := by
  cases cutOff_of_lexeme found with
  | quoted meaning closed =>
      rcases kind_of_quoteMeaning? meaning with rfl | rfl | rfl <;> exact TokenKind.noConfusion
  | mark mark =>
      unfold punctuation? at mark
      split at mark <;> cases mark <;> exact TokenKind.noConfusion
  | _ => exact TokenKind.noConfusion

namespace CutInto

/-- A text is cut in one way. -/
theorem unique {text : List Char} {lexemes lexemes' : List Lexeme} (cut : CutInto text lexemes)
    (cut' : CutInto text lexemes') : lexemes = lexemes' := by
  obtain ⟨pieces, closing, cut, rfl⟩ := cut
  obtain ⟨pieces', closing', cut', rfl⟩ := cut'
  rw [cut] at cut'
  cases cut'
  rfl

/-- What holds of every lexeme that can be cut holds of those that a text is cut into. -/
theorem forall_lexemes {property : Lexeme → Prop} {text : List Char} {lexemes : List Lexeme}
    (cut : CutInto text lexemes)
    (each : ∀ {c rest behind cut}, lexeme c rest = .ok (cut, behind) → property cut) :
    ∀ lexeme ∈ lexemes, property lexeme := by
  obtain ⟨pieces, closing, cut, rfl⟩ := cut
  exact List.forall_mem_map.mpr (forall_segments cut each)

theorem nil : CutInto [] [] :=
  ⟨[], [], segments_of_closing (gap_of_absent rfl), rfl⟩

/-- Trivia in front of a cut text change nothing but its first gap. -/
theorem of_gap {text rest : List Char} (skipped : List Char) {lexemes : List Lexeme}
    (same : ∀ {more behind : List Char}, gap rest = .ok (more, behind) →
      gap text = .ok (skipped ++ more, behind))
    (tail : CutInto rest lexemes) : CutInto text lexemes := by
  obtain ⟨pieces, closing, cut, rfl⟩ := tail
  rw [segments] at cut
  split at cut
  · cases cut
  · rename_i found
    cases cut
    exact ⟨[], _, segments_of_closing (same found), rfl⟩
  · rename_i found
    split at cut
    · cases cut
    · rename_i here
      split at cut
      · cases cut
      · rename_i next
        cases cut
        exact ⟨_, _, segments_of_lexeme (same found) here next, rfl⟩

theorem blank {z : Char} (blank : isBlank z = true) {rest : List Char} {lexemes : List Lexeme}
    (tail : CutInto rest lexemes) : CutInto (z :: rest) lexemes :=
  of_gap [z] (fun found => gap_blank blank found) tail

theorem space {rest : List Char} {lexemes : List Lexeme} (tail : CutInto rest lexemes) :
    CutInto (' ' :: rest) lexemes :=
  blank (by decide) tail

/-- Two texts with a newline between them are cut apart. -/
theorem append_newline {first second : List Char} {lexemes more : List Lexeme}
    (cut : CutInto first lexemes) (next : CutInto second more) :
    CutInto (first ++ '\n' :: second) (lexemes ++ more) := by
  obtain ⟨pieces, closing, cut, rfl⟩ := cut
  have behind : CutInto (closing ++ '\n' :: second) more :=
    of_gap (closing ++ ['\n'])
      (fun found => by simpa using gap_before_newline (gap_closing cut) found) next
  obtain ⟨pieces', closing', cut', rfl⟩ := behind
  exact ⟨pieces ++ pieces', closing', segments_before (.of_isBlank (by decide)) cut cut', by simp⟩

/-- A lexeme at the very front. -/
theorem cons {c : Char} {raw rest : List Char} {kind : TokenKind} {lexemes : List Lexeme}
    (front : triviaStep (c :: (raw ++ rest)) = .absent)
    (here : lexeme c (raw ++ rest) = .ok (⟨kind, c :: raw⟩, rest)) (tail : CutInto rest lexemes) :
    CutInto (c :: (raw ++ rest)) (⟨kind, c :: raw⟩ :: lexemes) := by
  obtain ⟨pieces, closing, cut, rfl⟩ := tail
  exact ⟨_, _, segments_of_lexeme (gap_of_absent front) here cut, rfl⟩

end CutInto

/-! ## Tokens -/

/-- A token without its place. -/
def Token.lexeme (token : Token) : Lexeme := ⟨token.kind, token.text.toList⟩

@[simp] theorem Token.lexeme_ofLexeme (position : Position) (cut : Lexeme) :
    (Token.ofLexeme position cut).lexeme = cut := by
  simp [Token.ofLexeme, Token.lexeme]

/-- Placing the pieces of a source makes one token of every lexeme, and one of the end. -/
theorem place_lexemes (position : Position) (closing : List Char) (pieces : List Segment) :
    ∃ tokens final, place position closing pieces = tokens ++ [Token.endAt final] ∧
      tokens.map Token.lexeme = pieces.map Segment.lexeme := by
  induction pieces generalizing position with
  | nil => exact ⟨[], position.after closing, rfl, rfl⟩
  | cons piece pieces ih =>
      obtain ⟨tokens, final, placed, same⟩ :=
        ih ((position.after piece.gap).after piece.lexeme.raw)
      refine ⟨Token.ofLexeme (position.after piece.gap) piece.lexeme :: tokens, final, ?_, ?_⟩
      · rw [place, placed]
        rfl
      · simp [same]

/-- The last token of a source is its end. -/
theorem tokenize_ends {source : String} {tokens : List Token}
    (lexed : tokenize source = .ok tokens) :
    ∃ front final, tokens = front ++ [Token.endAt final] := by
  unfold tokenize at lexed
  split at lexed
  · cases lexed
  · rename_i pieces closing cut
    obtain ⟨front, final, placed, -⟩ := place_lexemes .start closing pieces
    cases lexed
    exact ⟨front, final, placed⟩

/-- A source is tokenized without a fault exactly if it is cut into lexemes, and its tokens
are these lexemes and the end. -/
theorem cutInto_iff_tokenize {source : String} {lexemes : List Lexeme} :
    CutInto source.toList lexemes ↔
      ∃ tokens final, tokenize source = .ok (tokens ++ [Token.endAt final]) ∧
        tokens.map Token.lexeme = lexemes := by
  constructor
  · rintro ⟨pieces, closing, cut, rfl⟩
    obtain ⟨tokens, final, placed, same⟩ := place_lexemes .start closing pieces
    exact ⟨tokens, final, by rw [tokenize, cut, ← placed], same⟩
  · rintro ⟨tokens, final, lexed, rfl⟩
    unfold tokenize at lexed
    split at lexed
    · cases lexed
    · rename_i pieces closing cut
      obtain ⟨tokens', final', placed, same⟩ := place_lexemes .start closing pieces
      rw [placed] at lexed
      obtain ⟨rfl, -⟩ := List.append_inj' (Except.ok.inj lexed) rfl
      exact ⟨pieces, closing, cut, same.symm⟩

/-- A token of a source is one of its lexemes or the end. -/
theorem cutInto_of_tokenize {source : String} {tokens : List Token}
    (lexed : tokenize source = .ok tokens) :
    ∃ lexemes, CutInto source.toList lexemes ∧
      ∀ token ∈ tokens, token.lexeme ∈ lexemes ∨ ∃ final, token = Token.endAt final := by
  obtain ⟨front, final, rfl⟩ := tokenize_ends lexed
  refine ⟨_, cutInto_iff_tokenize.mpr ⟨front, final, lexed, rfl⟩, fun token member => ?_⟩
  rcases List.mem_append.mp member with inside | last
  · exact .inl (List.mem_map_of_mem inside)
  · exact .inr ⟨final, List.mem_singleton.mp last⟩

end AlterRelay.Sql
