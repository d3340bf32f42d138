/-
# AlterRelay.Proofs.Column.LiteralToken — a literal is decoded alike twice

A literal is decoded where it is cut from the source, character by character up
to the quote that closes it, and again where its raw text is asked for a value,
with both quotes taken off first. `Spelled` is the notation that both read: what
may stand between the quotes, and the text that it spells. The first decoder
only passes what is spelled (`spelled_of_quotedTail`), the second one resolves
whatever is (`Spelled.resolveEscapes`), so they agree on every token
of every source (`token_value`).
-/
import AlterRelay.Column.OptionValue
import AlterRelay.Proofs.Sql.Cutting
import Mathlib.Control.Monad.Basic

namespace AlterRelay.Column

open AlterRelay.Sql
open AlterRelay.Text

set_option autoImplicit false

/-- The text that stands between two quotes, and the text that it spells. -/
inductive Spelled (quote : Char) : List Char → List Char → Prop where
  | nil : Spelled quote [] []
  | doubled {body value : List Char} (more : Spelled quote body value) :
      Spelled quote (quote :: quote :: body) (quote :: value)
  | escaped (c : Char) {body value : List Char} (more : Spelled quote body value) :
      Spelled quote (backslash :: c :: body) (unescape c :: value)
  | plain {c : Char} {body value : List Char} (plain : ¬(c = backslash ∨ c = quote))
      (more : Spelled quote body value) : Spelled quote (c :: body) (c :: value)

variable {quote : Char}

theorem Spelled.resolveEscapes (solid : quote ≠ backslash) {body value : List Char}
    (spelled : Spelled quote body value) : resolveEscapes quote body = value := by
  induction spelled with
  | nil => rfl
  | doubled _ ih => simp [Text.resolveEscapes, solid, ih]
  | escaped c _ ih => simp [Text.resolveEscapes, ih]
  | plain plain _ ih => rw [resolveEscapes_cons plain, ih]

theorem spelled_of_quotedTail (literal : quote ≠ backQuote) {text : List Char}
    {tail : QuotedTail} (closed : quotedTail quote text = some tail) :
    ∃ body, tail.raw = body ++ [quote] ∧ Spelled quote body tail.value := by
  fun_induction quotedTail quote text generalizing tail with
  | case1 => cases closed
  | case2 =>
      cases closed
      exact ⟨[], rfl, .nil⟩
  | case3 => cases closed
  | case4 rest ih =>
      obtain ⟨inner, closed', rfl⟩ := Option.map_eq_some_iff.mp closed
      obtain ⟨body, same, spelled⟩ := ih closed'
      exact ⟨quote :: quote :: body, by simp [QuotedTail.push, same], spelled.doubled⟩
  | case5 =>
      cases closed
      exact ⟨[], rfl, .nil⟩
  | case6 c d rest _ escapes ih =>
      obtain ⟨inner, closed', rfl⟩ := Option.map_eq_some_iff.mp closed
      obtain ⟨body, same, spelled⟩ := ih closed'
      obtain ⟨rfl, -⟩ := escapes
      exact ⟨backslash :: d :: body, by simp [QuotedTail.push, same], spelled.escaped d⟩
  | case7 c d rest inside ordinary ih =>
      obtain ⟨inner, closed', rfl⟩ := Option.map_eq_some_iff.mp closed
      obtain ⟨body, same, spelled⟩ := ih closed'
      -- Outside of back-quotes, a backslash always escapes.
      have plain : ¬(c = backslash ∨ c = quote) := by
        rintro (rfl | rfl)
        · exact ordinary ⟨rfl, literal⟩
        · exact inside rfl
      exact ⟨c :: body, by simp [QuotedTail.push, same], spelled.plain plain⟩

/-! ## Tokens -/

theorem literal_of_quoteMeaning? {c : Char} {what : Delimited} {kindOf : String → TokenKind}
    (meaning : quoteMeaning? c = some (what, kindOf)) {spelled value : String}
    (kind : kindOf spelled = .string value ∨ kindOf spelled = .doubleQuoted value) :
    (c = singleQuote ∨ c = doubleQuote) ∧ spelled = value := by
  unfold quoteMeaning? at meaning
  split at meaning
  · cases meaning
    simp at kind
  split at meaning
  · cases meaning
    exact ⟨.inl ‹_›, by simpa using kind⟩
  split at meaning
  · cases meaning
    exact ⟨.inr ‹_›, by simpa using kind⟩
  · cases meaning

/-- Only a quote begins a literal. -/
theorem quotedTail_of_lexeme {c : Char} {rest behind : List Char} {cut : Lexeme}
    (found : lexeme c rest = .ok (cut, behind)) {value : String}
    (kind : cut.kind = .string value ∨ cut.kind = .doubleQuoted value) :
    (c = singleQuote ∨ c = doubleQuote) ∧
      ∃ tail, quotedTail c rest = some tail ∧ cut.raw = c :: tail.raw ∧
        String.ofList tail.value = value := by
  cases cutOff_of_lexeme found with
  | quoted meaning closed =>
      obtain ⟨literal, same⟩ := literal_of_quoteMeaning? meaning kind
      exact ⟨literal, _, closed, rfl, same⟩
  | mark mark =>
      unfold punctuation? at mark
      split at mark <;> cases mark <;> simp at kind
  | _ => simp at kind

/-- The raw text of a literal is decoded to the value in its kind. -/
def DecodesAlike (cut : Lexeme) : Prop :=
  ∀ value : String, cut.kind = .string value ∨ cut.kind = .doubleQuoted value →
    String.ofList (literalValue cut.raw) = value

theorem decodesAlike_of_lexeme {c : Char} {rest behind : List Char} {cut : Lexeme}
    (found : lexeme c rest = .ok (cut, behind)) : DecodesAlike cut := by
  intro value kind
  obtain ⟨literal, tail, closed, raw, rfl⟩ := quotedTail_of_lexeme found kind
  have apart : c ≠ backQuote ∧ c ≠ backslash := by rcases literal with rfl | rfl <;> decide
  obtain ⟨body, whole, spelled⟩ := spelled_of_quotedTail apart.1 closed
  rw [raw, whole, literalValue_wrapped literal, spelled.resolveEscapes apart.2]

/-- What begins with a quote of a literal is one. -/
theorem literal_of_quote {c : Char} {rest behind : List Char} {cut : Lexeme}
    (found : lexeme c rest = .ok (cut, behind)) (quote : c = singleQuote ∨ c = doubleQuote) :
    ∃ value, cut.kind = .string value ∨ cut.kind = .doubleQuoted value := by
  have plain : isWordStart c = false ∧ c.isDigit = false ∧ ¬(c = '-' ∨ c = '+') := by
    rcases quote with rfl | rfl <;> decide +kernel
  obtain ⟨noStart, noDigit, noSign⟩ := plain
  rw [lexeme, if_neg (by simp [noStart]), if_neg (by simp [noDigit]), if_neg noSign] at found
  rcases quote with rfl | rfl
  · have meaning : quoteMeaning? singleQuote = some (.stringLiteral, .string) := rfl
    simp only [meaning] at found
    split at found
    · cases found
      exact ⟨_, .inl rfl⟩
    · cases found
  · have meaning : quoteMeaning? doubleQuote = some (.stringLiteral, .doubleQuoted) := rfl
    simp only [meaning] at found
    split at found
    · cases found
      exact ⟨_, .inr rfl⟩
    · cases found

/-- The raw text of what is no literal stands for itself. -/
def StandsForItself (cut : Lexeme) : Prop :=
  (∀ value : String, cut.kind ≠ .string value ∧ cut.kind ≠ .doubleQuoted value) →
    literalValue cut.raw = cut.raw

theorem standsForItself_of_lexeme {c : Char} {rest behind : List Char} {cut : Lexeme}
    (found : lexeme c rest = .ok (cut, behind)) : StandsForItself cut := by
  intro other
  have noQuote : ¬(c = singleQuote ∨ c = doubleQuote) := by
    intro quote
    obtain ⟨value, single | double⟩ := literal_of_quote found quote
    · exact (other value).1 single
    · exact (other value).2 double
  rw [not_or] at noQuote
  obtain ⟨whole, solid⟩ := lexeme_append found
  cases raw : cut.raw with
  | nil => exact absurd raw solid
  | cons d more =>
      rw [raw, List.cons_append] at whole
      obtain rfl := (List.cons.inj whole).1
      simp [literalValue, isWrappedIn, noQuote]

/-- Whatever a source holds, asking the raw text of a literal for its value gives what was
decoded when the literal was cut. -/
theorem token_value {source : String} {tokens : List Token}
    (lexed : tokenize source = .ok tokens) {token : Token} (member : token ∈ tokens)
    {value : String} (kind : token.kind = .string value ∨ token.kind = .doubleQuoted value) :
    (OptionValue.present token.text).value? = some value := by
  unfold tokenize at lexed
  split at lexed
  · cases lexed
  rename_i pieces closing cut
  cases lexed
  obtain ⟨inner, final, placed, same⟩ := place_lexemes .start closing pieces
  rw [placed, List.mem_append, List.mem_singleton] at member
  rcases member with inside | rfl
  · have among : token.lexeme ∈ pieces.map Segment.lexeme := same ▸ List.mem_map_of_mem inside
    obtain ⟨piece, isPiece, same'⟩ := List.mem_map.mp among
    have alike : DecodesAlike token.lexeme :=
      same' ▸ forall_segments cut decodesAlike_of_lexeme piece isPiece
    exact congrArg some (alike value kind)
  · simp [Token.endAt] at kind

/-- A backslash and two quotes, each written differently, right before the quote that closes. -/
def closeCall : Token where
  kind := .string "a\\''"
  span := Span.of ⟨8, 1, 9⟩ "'a\\\\''\\''".toList
  text := "'a\\\\''\\''"

def closeCallTokens : List Token :=
  match tokenize "DEFAULT 'a\\\\''\\'' \"\"\"\"" with
  | .ok tokens => tokens
  | .error _ => []

theorem token_value_closeCall :
    tokenize "DEFAULT 'a\\\\''\\'' \"\"\"\"" = .ok closeCallTokens ∧
      closeCall ∈ closeCallTokens ∧ closeCall.kind = .string "a\\''" ∧
      (OptionValue.present closeCall.text).value? = some "a\\''" := by
  have lexed : tokenize "DEFAULT 'a\\\\''\\'' \"\"\"\"" = .ok closeCallTokens := by
    decide +kernel
  have member : closeCall ∈ closeCallTokens := by decide +kernel
  exact ⟨lexed, member, rfl, token_value lexed member (.inl rfl)⟩

end AlterRelay.Column
