/-
# AlterRelay.Proofs.Sql.Respacing — tokens with other trivia between them

The trivia between the tokens of a source may be replaced by any others, as long
as each token has a blank right behind it: the text that `respaced` puts together
has the same lexemes (`tokenize_respaced`).

A lexeme that was cut from a source is cut again where its text stands alone
(`isWhole_of_cutInto`): no scanner needs what it has seen behind the lexeme. A
blank is then enough to keep it apart from whatever follows.
-/
import AlterRelay.Proofs.Sql.Form
import AlterRelay.Proofs.Sql.TriviaForms

namespace AlterRelay.Sql

open AlterRelay.Text

set_option autoImplicit false

/-! ## A lexeme alone -/

/-- A stretch is the whole stretch of its own text. -/
theorem span_alone (p : Char → Bool) (text : List Char) :
    (text.takeWhile p).takeWhile p = text.takeWhile p ∧ (text.takeWhile p).dropWhile p = [] := by
  have inside : (text.takeWhile p).all p = true := List.all_takeWhile
  have whole := @span_whole p _ [] inside (by simp)
  rwa [List.append_nil] at whole

theorem startsWithDigit_takeWhile (text : List Char) :
    startsWithDigit (text.takeWhile Char.isDigit) = startsWithDigit text := by
  cases text with
  | nil => rfl
  | cons c text => by_cases digit : c.isDigit = true <;> simp [startsWithDigit, digit]

theorem startsWithDigit_numberTail {text : List Char} (digit : startsWithDigit text = true) :
    startsWithDigit (numberTail text).1 = true := by
  cases text with
  | nil => cases digit
  | cons c text =>
      have first : c.isDigit = true := digit
      unfold numberTail
      rw [List.takeWhile_cons_of_pos first, List.dropWhile_cons_of_pos first]
      split
      · split <;> exact first
      · exact first

/-- The digits of a number with its fraction are a number with the same fraction. -/
theorem numberTail_alone (text : List Char) :
    numberTail (numberTail text).1 = ((numberTail text).1, []) := by
  obtain ⟨taken, dropped⟩ := span_alone Char.isDigit text
  have plain : numberTail (text.takeWhile Char.isDigit) = (text.takeWhile Char.isDigit, []) := by
    unfold numberTail
    rw [taken, dropped]
  have fraction : ∀ rest, startsWithDigit rest = true →
      numberTail (text.takeWhile Char.isDigit ++ '.' :: rest.takeWhile Char.isDigit) =
        (text.takeWhile Char.isDigit ++ '.' :: rest.takeWhile Char.isDigit, []) := by
    intro rest digit
    have stops : ∀ c ∈ ('.' :: rest.takeWhile Char.isDigit).head?, c.isDigit = false := by simp
    obtain ⟨taken', dropped'⟩ := span_whole List.all_takeWhile stops
    obtain ⟨all, none⟩ := span_alone Char.isDigit rest
    unfold numberTail
    rw [taken', dropped']
    simp [startsWithDigit_takeWhile, digit, all, none]
  rw [numberTail.eq_def text]
  dsimp only
  split
  · split
    · exact fraction _ ‹_›
    · exact plain
  · exact plain

theorem quotedTail_alone {quote : Char} {text : List Char} {tail : QuotedTail}
    (closed : quotedTail quote text = some tail) :
    quotedTail quote tail.raw = some ⟨tail.value, tail.raw, []⟩ := by
  fun_induction quotedTail quote text generalizing tail with
  | case1 => cases closed
  | case2 =>
      cases closed
      simp [quotedTail]
  | case3 => cases closed
  | case4 rest ih =>
      obtain ⟨inner, found, rfl⟩ := Option.map_eq_some_iff.mp closed
      simp [quotedTail, ih found, QuotedTail.push]
  | case5 d rest other =>
      cases closed
      simp [quotedTail]
  | case6 c d rest notQuote escape ih =>
      obtain ⟨inner, found, rfl⟩ := Option.map_eq_some_iff.mp closed
      show quotedTail quote (c :: d :: inner.raw) = _
      rw [quotedTail, if_neg notQuote, if_pos escape, ih found]
      rfl
  | case7 c d rest notQuote noEscape ih =>
      obtain ⟨inner, found, rfl⟩ := Option.map_eq_some_iff.mp closed
      have inside := ih found
      cases raw : inner.raw with
      | nil =>
          rw [raw] at inside
          cases inside
      | cons e more =>
          show quotedTail quote (c :: inner.raw) = _
          rw [raw, quotedTail, if_neg notQuote, if_neg noEscape, ← raw, inside]
          rfl

theorem comparisonTail_alone (c : Char) (text : List Char) :
    comparisonTail c (comparisonTail c text).1 = ((comparisonTail c text).1, []) := by
  rw [comparisonTail.eq_def c text]
  split
  · rfl
  · by_cases less : c = '<' <;> simp [comparisonTail, less]
  · rfl

/-- No lexeme needs the text that stood behind it. -/
theorem lexeme_alone {c : Char} {rest behind : List Char} {cut : Lexeme}
    (found : lexeme c rest = .ok (cut, behind)) :
    ∃ raw, cut.raw = c :: raw ∧ raw <+: rest ∧ lexeme c raw = .ok (cut, []) := by
  have prefix' : ∀ raw, cut.raw = c :: raw → raw <+: rest := by
    intro raw same
    have whole := (lexeme_append found).1
    rw [same, List.cons_append] at whole
    exact ⟨behind, (List.cons.inj whole).2⟩
  -- That `raw` is a prefix holds of any lexeme. The cases are about the rest.
  suffices alone : ∃ raw, cut.raw = c :: raw ∧ lexeme c raw = .ok (cut, []) by
    obtain ⟨raw, same, alone⟩ := alone
    exact ⟨raw, same, prefix' raw same, alone⟩
  unfold lexeme at found
  by_cases word : isWordStart c = true
  · rw [if_pos word] at found
    cases found
    obtain ⟨taken, dropped⟩ := span_alone isWordPart rest
    exact ⟨_, rfl, by rw [lexeme, if_pos word, taken, dropped]⟩
  rw [if_neg word] at found
  by_cases numeral : c.isDigit = true
  · rw [if_pos numeral] at found
    cases found
    exact ⟨_, rfl, by rw [lexeme, if_neg word, if_pos numeral, numberTail_alone]⟩
  rw [if_neg numeral] at found
  by_cases sign : c = '-' ∨ c = '+'
  · rw [if_pos sign] at found
    split at found <;> rename_i next
    · cases found
      refine ⟨_, rfl, ?_⟩
      rw [lexeme, if_neg word, if_neg numeral, if_pos sign,
        if_pos (startsWithDigit_numberTail next), numberTail_alone]
    · cases found
      exact ⟨[], rfl, by rw [lexeme, if_neg word, if_neg numeral, if_pos sign]; rfl⟩
  rw [if_neg sign] at found
  cases meaning : quoteMeaning? c with
  | some quoted =>
      simp only [meaning] at found
      split at found
      · rename_i closed
        cases found
        refine ⟨_, rfl, ?_⟩
        rw [lexeme, if_neg word, if_neg numeral, if_neg sign]
        simp only [meaning, quotedTail_alone closed]
      · cases found
  | none =>
      simp only [meaning] at found
      by_cases compared : isComparison c = true
      · rw [if_pos compared] at found
        cases found
        refine ⟨_, rfl, ?_⟩
        rw [lexeme, if_neg word, if_neg numeral, if_neg sign]
        simp only [meaning, if_pos compared, comparisonTail_alone]
      rw [if_neg compared] at found
      split at found
      · rename_i mark
        cases found
        refine ⟨[], rfl, ?_⟩
        rw [lexeme, if_neg word, if_neg numeral, if_neg sign]
        simp only [meaning, if_neg compared, mark]
      · cases found

/-- Where a token begins, it begins if it stands alone. -/
theorem triviaStep_absent_of_prefix {front text : List Char} (absent : triviaStep text = .absent)
    (within : front <+: text) : triviaStep front = .absent := by
  obtain ⟨behind, rfl⟩ := within
  obtain ⟨noLine, noBlock, solid⟩ := triviaStep_eq_absent_iff.mp absent
  refine triviaStep_eq_absent_iff.mpr ⟨?_, ?_, ?_⟩
  · rw [← Bool.not_eq_true, startsLineComment_eq_true_iff] at noLine ⊢
    rintro ⟨opener, opens, here⟩
    exact noLine ⟨opener, opens, here.trans (List.prefix_append front behind)⟩
  · rintro body rfl
    exact noBlock (body ++ behind) rfl
  · intro c head
    apply solid
    rw [List.head?_append, head]
    rfl

theorem isWhole_of_lexeme {c : Char} {rest behind : List Char} {cut : Lexeme}
    (absent : triviaStep (c :: rest) = .absent) (found : lexeme c rest = .ok (cut, behind)) :
    cut.IsWhole := by
  obtain ⟨raw, same, within, alone⟩ := lexeme_alone found
  have front := triviaStep_absent_of_prefix absent (List.cons_prefix_cons.mpr ⟨rfl, within⟩)
  refine ⟨[⟨[], cut⟩], [], ?_, rfl⟩
  rw [same]
  exact segments_of_lexeme (gap_of_absent front) alone (segments_of_closing (gap_of_absent rfl))

/-- The lexemes of a source are lexemes that their own texts are cut into. -/
theorem isWhole_of_cutInto {text : List Char} {lexemes : List Lexeme}
    (cut : CutInto text lexemes) : ∀ lexeme ∈ lexemes, lexeme.IsWhole := by
  obtain ⟨pieces, closing, cut, rfl⟩ := cut
  refine List.forall_mem_map.mpr fun piece member => ?_
  obtain ⟨_, _, _, _, found, cutAt⟩ := isCut_of_segments cut piece member
  exact isWhole_of_lexeme (triviaStep_of_gap found) cutAt

/-! ## Other trivia -/

/-- Trivia that begin with a blank and are complete in themselves. -/
def IsSeparator (text : List Char) : Prop :=
  ∃ z more, text = z :: more ∧ isBlank z = true ∧ IsTrivia false more

/-- Texts with a separator behind each of them. -/
def separated (texts separators : List String) : String :=
  String.join (List.zipWith (fun text separator => text ++ separator) texts separators)

theorem separated_cutInto {lexemes : List Lexeme} {separators : List String}
    (whole : ∀ lexeme ∈ lexemes, lexeme.IsWhole)
    (each : separators.length = lexemes.length)
    (separates : ∀ separator ∈ separators, IsSeparator separator.toList) :
    CutInto (separated (lexemes.map Lexeme.text) separators).toList lexemes := by
  induction lexemes generalizing separators with
  | nil => exact CutInto.nil
  | cons first lexemes ih =>
      cases separators with
      | nil => cases each
      | cons separator separators =>
          obtain ⟨firstWhole, others⟩ := List.forall_mem_cons.mp whole
          obtain ⟨firstSeparates, further⟩ := List.forall_mem_cons.mp separates
          obtain ⟨z, more, same, blank, trivia⟩ := firstSeparates
          have tail := ih others (by simpa using each) further
          have behind := CutInto.of_gap more (gap_of_isTrivia trivia nofun) tail
          have here := CutInto.before firstWhole (.of_isBlank blank) (behind.blank blank)
          simpa [separated, Lexeme.text, same] using here

/-- The text of these tokens with other trivia in front of them and between them. -/
def respaced (lead : String) (tokens : List Token) (separators : List String) : String :=
  lead ++ separated (tokens.map Token.text) separators

/-- A source with other trivia between its tokens has the same tokens, but for their places. -/
theorem tokenize_respaced {source : String} {tokens : List Token} {ending : Token}
    (lexed : tokenize source = .ok (tokens ++ [ending])) {lead : String}
    {separators : List String} (leads : IsTrivia tokens.isEmpty lead.toList)
    (each : separators.length = tokens.length)
    (separates : ∀ separator ∈ separators, IsSeparator separator.toList) :
    ∃ again, tokenize (respaced lead tokens separators) = .ok again ∧
      again.map Token.lexeme = (tokens ++ [ending]).map Token.lexeme := by
  obtain ⟨front, final, ends⟩ := tokenize_ends lexed
  obtain ⟨rfl, same⟩ := List.append_inj' ends rfl
  obtain rfl := List.singleton_inj.mp same
  have whole := isWhole_of_cutInto (cutInto_iff_tokenize.mpr ⟨tokens, final, lexed, rfl⟩)
  have texts : (tokens.map Token.lexeme).map Lexeme.text = tokens.map Token.text := by
    simp [Token.lexeme, Lexeme.text]
  have behind := separated_cutInto whole (by simpa using each) separates
  rw [texts] at behind
  have nothing : tokens.isEmpty = true →
      (separated (tokens.map Token.text) separators).toList = [] := by
    intro empty
    rw [List.isEmpty_iff.mp empty]
    rfl
  have cut : CutInto (respaced lead tokens separators).toList (tokens.map Token.lexeme) := by
    rw [respaced, String.toList_append]
    exact CutInto.of_gap lead.toList (gap_of_isTrivia leads nothing) behind
  obtain ⟨again, final', lexed', same⟩ := cutInto_iff_tokenize.mp cut
  refine ⟨again ++ [Token.endAt final'], lexed', ?_⟩
  rw [List.map_append, List.map_append, same]
  rfl

end AlterRelay.Sql
