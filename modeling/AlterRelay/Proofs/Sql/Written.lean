/-
# AlterRelay.Proofs.Sql.Written — texts that are written to be cut

A text that is written for a reader is put together from words, numbers, quoted
names, literals and punctuation. `CutBefore stops text lexemes` says that it is cut
into these lexemes in front of whatever begins with a stop, so texts are joined by
spaces or other separators that begin with one (`CutBefore.space`,
`CutBefore.intercalate`). What is cut in front of every divider is cut in front of a
space: `WrittenAs` asks for no more than that.

Nothing leaves its quotes: a name with its back-quotes doubled and a value with
its quotes and backslashes escaped each end at their own closing quote, whatever
characters they hold (`quotedTail_doubled`, `quotedTail_escaped`).
-/
import AlterRelay.Proofs.Sql.Cutting
import Mathlib.Data.List.TakeWhile

namespace AlterRelay.Sql

open AlterRelay.Text

set_option autoImplicit false

/-! ## Lexemes that are written -/

namespace Lexeme

def word (text : String) : Lexeme := ⟨.word, text.toList⟩

/-- A numeral. -/
def number (digits : String) : Lexeme := ⟨.number, digits.toList⟩

/-- A name in back-quotes, with those inside doubled. -/
def name (name : String) : Lexeme := ⟨.quotedIdent name, backQuoted name.toList⟩

/-- A string in single quotes, with those inside escaped. -/
def literal (value : String) : Lexeme := ⟨.string value, singleQuoted value.toList⟩

def dot : Lexeme := ⟨.dot, ['.']⟩

def comma : Lexeme := ⟨.comma, [',']⟩

def openParen : Lexeme := ⟨.openParen, ['(']⟩

def closeParen : Lexeme := ⟨.closeParen, [')']⟩

end Lexeme

/-! ## Words and numbers -/

/-- A text that a word is spelt with. -/
def isWordText : List Char → Bool
  | [] => false
  | c :: raw => isWordStart c && raw.all isWordPart

/-- Trivia begin with a blank or with a character that opens a comment. -/
theorem front_of_solid {c : Char} (solid : isBlank c = false)
    (noComment : c ≠ '#' ∧ c ≠ '-' ∧ c ≠ '/') (rest : List Char) :
    triviaStep (c :: rest) = .absent := by
  obtain ⟨hash, dash, slash⟩ := noComment
  simp [triviaStep_eq_absent_iff, startsLineComment, hash, dash, slash, solid]

/-- A part of a word is no blank. -/
theorem solid_of_isWordPart {c : Char} (part : isWordPart c = true) : isBlank c = false := by
  by_contra blank
  rw [isWordPart_of_isBlank (by simpa using blank)] at part
  cases part

theorem isWordPart_of_isWordStart {c : Char} (start : isWordStart c = true) :
    isWordPart c = true := by
  simp only [isWordStart, isWordPart, Bool.or_eq_true] at start ⊢
  rcases start with (letter | underscore) | dollar
  · exact .inl (.inl (.inl letter))
  · exact .inl (.inr underscore)
  · exact .inr dollar

/-- No part of a word opens a comment. -/
theorem not_comment_of_isWordPart {c : Char} (part : isWordPart c = true) :
    c ≠ '#' ∧ c ≠ '-' ∧ c ≠ '/' := by
  refine ⟨?_, ?_, ?_⟩ <;> rintro rfl <;> exact absurd part (by decide)

/-- A text whose characters all belong to it is split off where one follows that does not. -/
theorem span_whole {p : Char → Bool} {text more : List Char} (whole : text.all p = true)
    (stops : ∀ c ∈ more.head?, p c = false) :
    (text ++ more).takeWhile p = text ∧ (text ++ more).dropWhile p = more := by
  obtain ⟨taken, dropped⟩ := span_before p text more (.inr stops)
  rw [List.all_eq_true] at whole
  rw [taken, dropped, List.takeWhile_eq_self_iff.mpr whole, List.dropWhile_eq_nil_iff.mpr whole]
  exact ⟨rfl, rfl⟩

/-- A word is cut off in front of whatever cannot go on with it. -/
theorem CutInto.word {text : String} {rest : List Char} {lexemes : List Lexeme}
    (written : isWordText text.toList = true) (stops : ∀ c ∈ rest.head?, isWordPart c = false)
    (tail : CutInto rest lexemes) : CutInto (text.toList ++ rest) (.word text :: lexemes) := by
  unfold Lexeme.word
  cases spelling : text.toList with
  | nil => simp [spelling, isWordText] at written
  | cons c raw =>
      rw [spelling] at written
      obtain ⟨start, parts⟩ := (Bool.and_eq_true _ _).mp written
      have part := isWordPart_of_isWordStart start
      obtain ⟨taken, dropped⟩ := span_whole parts stops
      refine CutInto.cons (front_of_solid (solid_of_isWordPart part)
        (not_comment_of_isWordPart part) _) ?_ tail
      rw [lexeme, if_pos start, taken, dropped]

theorem isWordStart_of_isDigit {c : Char} (digit : c.isDigit = true) :
    isWordStart c = false := by
  have bounds : 48 ≤ c.toNat ∧ c.toNat ≤ 57 := by
    simpa [Char.isDigit, UInt32.le_iff_toNat_le] using digit
  have checked : ∀ code ∈ List.range' 48 10, isWordStart (Char.ofNat code) = false := by
    decide +kernel
  rw [← Char.ofNat_toNat c]
  refine checked c.toNat (List.mem_range'_1.mpr ?_)
  omega

/-- A numeral is cut off in front of whatever is no digit and no point. -/
theorem CutInto.number {text : String} {rest : List Char} {lexemes : List Lexeme}
    (nonempty : text.toList ≠ []) (written : text.toList.all Char.isDigit = true)
    (stops : ∀ c ∈ rest.head?, c.isDigit = false ∧ c ≠ '.') (tail : CutInto rest lexemes) :
    CutInto (text.toList ++ rest) (.number text :: lexemes) := by
  unfold Lexeme.number
  cases digits : text.toList with
  | nil => exact absurd digits nonempty
  | cons c raw =>
      rw [digits] at written
      obtain ⟨digit, more⟩ := (Bool.and_eq_true _ _).mp (List.all_cons ▸ written)
      have noStart := isWordStart_of_isDigit digit
      have solid : isBlank c = false := by
        by_contra blank
        rw [isDigit_of_isBlank (by simpa using blank)] at digit
        cases digit
      have noComment : c ≠ '#' ∧ c ≠ '-' ∧ c ≠ '/' := by
        refine ⟨?_, ?_, ?_⟩ <;> rintro rfl <;> exact absurd digit (by decide)
      have whole : numberTail raw = (raw, []) := by
        rw [List.all_eq_true] at more
        unfold numberTail
        rw [List.takeWhile_eq_self_iff.mpr more, List.dropWhile_eq_nil_iff.mpr more]
      refine CutInto.cons (front_of_solid solid noComment _) ?_ tail
      rw [lexeme, if_neg (by simp [noStart]), if_pos digit, numberTail_before raw stops, whole]
      simp

/-! ## Quoted texts -/

/-- A character that is no quote and escapes nothing stands for itself. -/
theorem quotedTail_plain {quote c : Char} (notQuote : c ≠ quote)
    (noEscape : ¬(c = backslash ∧ quote ≠ backQuote)) (text : List Char) :
    quotedTail quote (c :: text) = (quotedTail quote text).map (·.push c [c]) := by
  cases text with
  | nil => simp [quotedTail, notQuote]
  | cons d text => rw [quotedTail, if_neg notQuote, if_neg noEscape]

/-- A name with its back-quotes doubled ends at the first single one. -/
theorem quotedTail_doubled (name : List Char) {rest : List Char}
    (stops : rest.head? ≠ some backQuote) :
    quotedTail backQuote (doubled backQuote name ++ backQuote :: rest) =
      some ⟨name, doubled backQuote name ++ [backQuote], rest⟩ := by
  induction name with
  | nil =>
      cases rest with
      | nil => rfl
      | cons c rest =>
          have other : c ≠ backQuote := by simpa using stops
          simp [doubled, quotedTail, other]
  | cons c name ih =>
      unfold doubled at ih ⊢
      rw [List.flatMap_cons, List.append_assoc]
      by_cases quote : c = backQuote
      · subst quote
        simp [quotedTail, ih, QuotedTail.push]
      · rw [if_neg quote, List.singleton_append, quotedTail_plain quote (by simp), ih]
        rfl

/-- A text with its single quotes and backslashes escaped ends at the first single quote
without a backslash. -/
theorem quotedTail_escaped (value : List Char) {rest : List Char}
    (stops : rest.head? ≠ some singleQuote) :
    quotedTail singleQuote (escaped value ++ singleQuote :: rest) =
      some ⟨value, escaped value ++ [singleQuote], rest⟩ := by
  induction value with
  | nil =>
      cases rest with
      | nil => rfl
      | cons c rest =>
          have other : c ≠ singleQuote := by simpa using stops
          simp [escaped, quotedTail, other]
  | cons c value ih =>
      unfold escaped at ih ⊢
      rw [List.flatMap_cons, List.append_assoc]
      by_cases special : c = backslash ∨ c = singleQuote
      · have kept : unescape c = c := by rcases special with rfl | rfl <;> rfl
        have opener : backslash ≠ singleQuote := by decide
        have notName : singleQuote ≠ backQuote := by decide
        rw [if_pos special, List.cons_append, List.singleton_append, quotedTail, if_neg opener,
          if_pos ⟨rfl, notName⟩, ih, kept]
        rfl
      · obtain ⟨noEscape, noQuote⟩ := not_or.mp special
        rw [if_neg special, List.singleton_append,
          quotedTail_plain noQuote (fun both => noEscape both.1), ih]
        rfl

/-- The quote decides the kind of the lexeme, and its tail the value. -/
theorem lexeme_quote {quote : Char} {what : Delimited} {kind : String → TokenKind}
    {text : List Char} {tail : QuotedTail} (meaning : quoteMeaning? quote = some (what, kind))
    (closed : quotedTail quote text = some tail) :
    lexeme quote text = .ok (⟨kind (String.ofList tail.value), quote :: tail.raw⟩, tail.rest) := by
  have shape : isWordStart quote = false ∧ quote.isDigit = false ∧ quote ≠ '-' ∧ quote ≠ '+' := by
    rcases isQuote_of_quoteMeaning? meaning with rfl | rfl | rfl <;> decide +kernel
  simp [lexeme, shape, meaning, closed]

/-- A quoted name is cut off in front of anything but another back-quote. -/
theorem CutInto.quotedName (name : String) {rest : List Char} {lexemes : List Lexeme}
    (stops : rest.head? ≠ some backQuote) (tail : CutInto rest lexemes) :
    CutInto (backQuoted name.toList ++ rest) (.name name :: lexemes) := by
  have closed := quotedTail_doubled name.toList stops
  have cut := lexeme_quote rfl closed
  simp only [String.ofList_toList] at cut
  refine CutInto.cons (front_of_solid (by decide) (by decide) _) ?_ tail
  rw [List.append_assoc, List.singleton_append, cut]

/-- The same of a string, in front of anything but another single quote. -/
theorem CutInto.literal (value : String) {rest : List Char} {lexemes : List Lexeme}
    (stops : rest.head? ≠ some singleQuote) (tail : CutInto rest lexemes) :
    CutInto (singleQuoted value.toList ++ rest) (.literal value :: lexemes) := by
  have closed := quotedTail_escaped value.toList stops
  have cut := lexeme_quote rfl closed
  simp only [String.ofList_toList] at cut
  refine CutInto.cons (front_of_solid (by decide) (by decide) _) ?_ tail
  rw [List.append_assoc, List.singleton_append, cut]

/-! ## Punctuation -/

/-- Punctuation is cut off whatever stands behind it. -/
theorem CutInto.mark {c : Char} {kind : TokenKind}
    (mark : punctuation? c = some kind ∧ kind ≠ .operator) {rest : List Char}
    {lexemes : List Lexeme} (tail : CutInto rest lexemes) :
    CutInto (c :: rest) (⟨kind, [c]⟩ :: lexemes) := by
  have listed : c = '(' ∨ c = ')' ∨ c = ',' ∨ c = '.' ∨ c = ';' ∨ c = '=' := by
    obtain ⟨found, proper⟩ := mark
    unfold punctuation? at found
    split at found <;> simp_all
  have shape : isWordStart c = false ∧ c.isDigit = false ∧ c ≠ '-' ∧ c ≠ '+' ∧
      quoteMeaning? c = none ∧ isComparison c = false ∧ isBlank c = false ∧ c ≠ '#' ∧ c ≠ '/' := by
    rcases listed with rfl | rfl | rfl | rfl | rfl | rfl <;> decide +kernel
  obtain ⟨noStart, noDigit, noMinus, noPlus, noQuote, noComparison, solid, noHash, noSlash⟩ := shape
  have cut : lexeme c ([] ++ rest) = .ok (⟨kind, [c]⟩, rest) := by
    simp [lexeme, noStart, noDigit, noMinus, noPlus, noQuote, noComparison, mark.1]
  exact CutInto.cons (front_of_solid solid ⟨noHash, noMinus, noSlash⟩ _) cut tail

/-! ## Written texts -/

namespace CutInto

variable {rest : List Char} {lexemes : List Lexeme}

theorem dot (tail : CutInto rest lexemes) : CutInto ('.' :: rest) (.dot :: lexemes) :=
  mark (by decide) tail

theorem comma (tail : CutInto rest lexemes) : CutInto (',' :: rest) (.comma :: lexemes) :=
  mark (by decide) tail

theorem openParen (tail : CutInto rest lexemes) : CutInto ('(' :: rest) (.openParen :: lexemes) :=
  mark (by decide) tail

theorem closeParen (tail : CutInto rest lexemes) :
    CutInto (')' :: rest) (.closeParen :: lexemes) :=
  mark (by decide) tail

/-- A text that is one lexeme stays one in front of a divider. -/
theorem before {lexeme : Lexeme} (whole : CutInto lexeme.raw [lexeme]) {z : Char}
    (divides : Divides z) (tail : CutInto (z :: rest) lexemes) :
    CutInto (lexeme.raw ++ z :: rest) (lexeme :: lexemes) := by
  obtain ⟨pieces, closing, cut, same⟩ := whole
  obtain ⟨⟨gap, cutHere⟩, rfl, rfl⟩ := List.map_eq_singleton_iff.mp same
  have lengths := congrArg List.length (segments_append cut)
  simp only [List.flatMap_cons, List.flatMap_nil, Segment.text, List.length_append,
    List.length_nil] at lengths
  have noClosing : closing = [] := List.eq_nil_of_length_eq_zero (by omega)
  subst noClosing
  obtain ⟨pieces', closing', cut', rfl⟩ := tail
  exact ⟨_, _, segments_before divides cut cut', rfl⟩

end CutInto

/-- A separator in front of every list but the first. -/
theorem intercalate_eq {α : Type} (separator : α) (first : List α) (others : List (List α)) :
    [separator].intercalate (first :: others) =
      first ++ others.flatMap fun other => separator :: other := by
  induction others generalizing first with
  | nil => simp [List.intercalate]
  | cons second others ih => simpa [List.intercalate] using ih second

theorem nil_intercalate {α : Type} (lists : List (List α)) :
    ([] : List α).intercalate lists = lists.flatten := by
  induction lists with
  | nil => rfl
  | cons first lists ih =>
      cases lists with
      | nil => simp [List.intercalate]
      | cons second lists => simpa [List.intercalate] using ih

/-- The text is cut into these lexemes at its end and in front of what stops it. -/
def CutBefore (stops : Char → Prop) (text : List Char) (lexemes : List Lexeme) : Prop :=
  ∀ ⦃rest : List Char⦄ ⦃more : List Lexeme⦄, (∀ c ∈ rest.head?, stops c) →
    CutInto rest more → CutInto (text ++ rest) (lexemes ++ more)

namespace CutBefore

variable {stops : Char → Prop} {text text' : List Char} {lexemes lexemes' : List Lexeme}

theorem cutInto (cut : CutBefore stops text lexemes) : CutInto text lexemes := by
  simpa using cut (by simp) CutInto.nil

theorem nil : CutBefore stops [] [] := fun _ _ _ tail => tail

/-- Texts stand together if the second begins with what may follow the first. -/
theorem append (first : CutBefore stops text lexemes) (second : CutBefore stops text' lexemes')
    (begins : ∀ c ∈ text'.head?, stops c) :
    CutBefore stops (text ++ text') (lexemes ++ lexemes') := by
  intro rest more stopped tail
  rw [List.append_assoc, List.append_assoc]
  refine first (fun c front => ?_) (second stopped tail)
  cases text' with
  | nil => exact stopped c front
  | cons d text' => exact begins c front

/-- A space in front is skipped. -/
theorem behindSpace (cut : CutBefore stops text lexemes) : CutBefore stops (' ' :: text) lexemes :=
  fun _ _ stopped tail => CutInto.space (cut stopped tail)

/-- A space divides texts of which each may be followed by one. -/
theorem space (spaced : stops ' ') (first : CutBefore stops text lexemes)
    (second : CutBefore stops text' lexemes') :
    CutBefore stops (text ++ ' ' :: text') (lexemes ++ lexemes') :=
  first.append second.behindSpace (by simpa using spaced)

/-- Texts with a separator between them, each with the lexemes that it is cut into. -/
theorem intercalate {c : Char} {separator : List Char} {between : List Lexeme} (begins : stops c)
    (separates : ∀ {text lexemes}, CutBefore stops text lexemes →
      CutBefore stops (c :: (separator ++ text)) (between ++ lexemes))
    {parts : List (List Char × List Lexeme)}
    (each : ∀ part ∈ parts, CutBefore stops part.1 part.2) :
    CutBefore stops ((c :: separator).intercalate (parts.map Prod.fst))
      (between.intercalate (parts.map Prod.snd)) := by
  induction parts with
  | nil => exact nil
  | cons first parts ih =>
      obtain ⟨here, others⟩ := List.forall_mem_cons.mp each
      cases parts with
      | nil => simpa [List.intercalate] using here
      | cons second parts =>
          have behind := separates (ih others)
          simpa [List.intercalate] using here.append behind (by simpa using begins)

/-- Any number of parts, with a space between any two of them. -/
theorem spacedParts (spaced : stops ' ') {parts : List (List Char × List Lexeme)}
    (each : ∀ part ∈ parts, CutBefore stops part.1 part.2) :
    CutBefore stops ([' '].intercalate (parts.map Prod.fst)) (parts.flatMap Prod.snd) := by
  have separates : ∀ {text lexemes}, CutBefore stops text lexemes →
      CutBefore stops (' ' :: ([] ++ text)) ([] ++ lexemes) := behindSpace
  have whole := intercalate spaced separates each
  rwa [nil_intercalate, ← List.flatMap_def] at whole

/-- Lexemes joined by spaces are cut apart again. -/
theorem joined (spaced : stops ' ')
    (each : ∀ lexeme ∈ lexemes, CutBefore stops lexeme.raw [lexeme]) :
    CutBefore stops ([' '].intercalate (lexemes.map Lexeme.raw)) lexemes := by
  have parts : ∀ part ∈ lexemes.map fun lexeme => (lexeme.raw, [lexeme]),
      CutBefore stops part.1 part.2 := List.forall_mem_map.mpr each
  simpa [List.flatMap_map, Function.comp_def] using spacedParts spaced parts

/-- A text that is one lexeme stays one in front of a divider. -/
theorem ofLexeme {lexeme : Lexeme} (whole : CutInto lexeme.raw [lexeme]) :
    CutBefore Divides lexeme.raw [lexeme] := by
  intro rest more stopped tail
  cases rest with
  | nil =>
      obtain ⟨pieces, closing, cut, rfl⟩ := tail
      rw [segments_of_closing (gap_of_absent rfl)] at cut
      cases cut
      rw [List.append_nil]
      exact whole
  | cons c rest => exact whole.before (stopped c rfl) tail

end CutBefore

/-- The text is cut into these lexemes in front of a space and at the end. -/
def WrittenAs (text : List Char) (lexemes : List Lexeme) : Prop :=
  ∀ ⦃rest : List Char⦄ ⦃more : List Lexeme⦄, (∀ c ∈ rest.head?, c = ' ') →
    CutInto rest more → CutInto (text ++ rest) (lexemes ++ more)

/-- A text that is cut in front of any divider is written. -/
theorem CutBefore.written {text : List Char} {lexemes : List Lexeme}
    (cut : CutBefore Divides text lexemes) : WrittenAs text lexemes := by
  intro rest more stops tail
  refine cut (fun c front => ?_) tail
  rw [stops c front]
  exact divides_space

namespace WrittenAs

theorem cutInto {text : List Char} {lexemes : List Lexeme} (written : WrittenAs text lexemes) :
    CutInto text lexemes := CutBefore.cutInto written

theorem space {text text' : List Char} {lexemes lexemes' : List Lexeme}
    (first : WrittenAs text lexemes) (second : WrittenAs text' lexemes') :
    WrittenAs (text ++ ' ' :: text') (lexemes ++ lexemes') := CutBefore.space rfl first second

theorem word {text : String} (written : isWordText text.toList = true) :
    WrittenAs text.toList [.word text] := by
  intro rest more stops tail
  refine CutInto.word written (fun c head => ?_) tail
  rw [stops c head]
  decide

theorem name (name : String) : WrittenAs (backQuoted name.toList) [.name name] := by
  intro rest more stops tail
  refine CutInto.quotedName name (fun quote => ?_) tail
  exact absurd (stops _ quote) (by decide)

theorem literal (value : String) : WrittenAs (singleQuoted value.toList) [.literal value] := by
  intro rest more stops tail
  refine CutInto.literal value (fun quote => ?_) tail
  exact absurd (stops _ quote) (by decide)

/-- Names in back-quotes with dots between them are cut at the dots outside the quotes. -/
theorem reference {names : List String} (nonempty : names ≠ []) :
    WrittenAs (['.'].intercalate (names.map fun name => backQuoted name.toList))
      ((names.map Lexeme.name).intersperse .dot) := by
  induction names with
  | nil => exact absurd rfl nonempty
  | cons first names ih =>
      cases names with
      | nil => simpa [List.intercalate] using name first
      | cons second names =>
          intro rest more stops tail
          have further := CutInto.dot (ih (by simp) stops tail)
          have whole := CutInto.quotedName first (by simp [backQuote]) further
          simpa [List.intercalate, Lexeme.name] using whole

end WrittenAs

end AlterRelay.Sql
