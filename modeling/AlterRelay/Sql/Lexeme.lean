/-
# AlterRelay.Sql.Lexeme — the shapes of a token

A lexeme is a kind and the characters it was cut from. Its first character
decides its shape:

* a letter, `_` or `$` begins a word, which letters, numbers, `_` and `$`
  continue;
* an ASCII digit begins a number, and so does a sign right before one; a point
  belongs to a number only if a digit follows it;
* a quote begins a quoted text, which may hold its quote doubled and, except in
  back-quotes, characters behind a backslash;
* `<` `>` `!` `:` take a following `=` with them, and `<` takes a `>`;
* the rest is punctuation and operators of one character.

Nothing is lost: `lexeme_append`.
-/
import AlterRelay.Sql.Token
import AlterRelay.Text.Alphabetic
import AlterRelay.Text.Numeric
import AlterRelay.Text.Quoted

namespace AlterRelay.Sql

open AlterRelay.Text

set_option autoImplicit false

/-- The kind of a token and the text that it was cut from. -/
structure Lexeme where
  kind : TokenKind
  raw : List Char
  deriving DecidableEq

/-! ## Faults -/

/-- What a source can leave open at its end. -/
inductive Delimited where
  | quotedIdentifier
  | stringLiteral
  | blockComment
  deriving DecidableEq, Repr

def Delimited.name : Delimited → String
  | quotedIdentifier => "quoted identifier"
  | stringLiteral => "string literal"
  | blockComment => "block comment"

/-- What can be wrong with a text in front of its next lexeme. -/
inductive LexFault where
  | unexpectedChar (c : Char)
  | unterminated (what : Delimited)
  deriving DecidableEq, Repr

/-! ## Words and numbers -/

def isWordStart (c : Char) : Bool := isAlphabetic c || c == '_' || c == '$'

def isWordPart (c : Char) : Bool := isAlphabetic c || isNumeric c || c == '_' || c == '$'

/-- Whether a number goes on, or begins behind its sign. -/
def startsWithDigit : List Char → Bool
  | [] => false
  | c :: _ => c.isDigit

/-- The digits at the front, with a fraction if a digit follows the point, and the text
behind them. -/
def numberTail (text : List Char) : List Char × List Char :=
  let digits := text.takeWhile Char.isDigit
  match text.dropWhile Char.isDigit with
  | '.' :: rest =>
      if startsWithDigit rest then
        (digits ++ '.' :: rest.takeWhile Char.isDigit, rest.dropWhile Char.isDigit)
      else (digits, '.' :: rest)
  | rest => (digits, rest)

/-! ## Quoted texts -/

/-- A quoted text behind its opening quote: the value, the characters up to the closing
quote, and the text behind it. -/
structure QuotedTail where
  value : List Char
  raw : List Char
  rest : List Char

/-- One more character in front of the value, and what it is written with. -/
def QuotedTail.push (tail : QuotedTail) (c : Char) (written : List Char) : QuotedTail :=
  ⟨c :: tail.value, written ++ tail.raw, tail.rest⟩

/-- The text up to the closing quote. A doubled quote and, but for names, a backslash belong to the
value. -/
def quotedTail (quote : Char) : List Char → Option QuotedTail
  | [] => none
  | [c] => if c = quote then some ⟨[], [c], []⟩ else none
  | c :: d :: rest =>
      if c = quote then
        if d = quote then (quotedTail quote rest).map (·.push quote [c, d])
        else some ⟨[], [c], d :: rest⟩
      else if c = backslash ∧ quote ≠ backQuote then
        (quotedTail quote rest).map (·.push (unescape d) [c, d])
      else (quotedTail quote (d :: rest)).map (·.push c [c])

/-- What a quote opens: the thing it delimits, and the kind of its token. -/
def quoteMeaning? (quote : Char) : Option (Delimited × (String → TokenKind)) :=
  if quote = backQuote then some (.quotedIdentifier, .quotedIdent)
  else if quote = singleQuote then some (.stringLiteral, .string)
  else if quote = doubleQuote then some (.stringLiteral, .doubleQuoted)
  else none

/-! ## Punctuation and operators -/

/-- The marks that are tokens by themselves, whatever follows. -/
def punctuation? : Char → Option TokenKind
  | '(' => some .openParen
  | ')' => some .closeParen
  | ',' => some .comma
  | '.' => some .dot
  | ';' => some .semicolon
  | '=' => some .equals
  | '*' | '/' | '%' | '&' | '|' | '^' | '~' | '@' | '?' => some .operator
  | _ => none

def isComparison (c : Char) : Bool := c == '<' || c == '>' || c == '!' || c == ':'

/-- The second character of an operator that begins with `c`, if there is one. -/
def comparisonTail (c : Char) : List Char → List Char × List Char
  | '=' :: rest => (['='], rest)
  | '>' :: rest => if c = '<' then (['>'], rest) else ([], '>' :: rest)
  | rest => ([], rest)

/-! ## One lexeme -/

/-- The lexeme that begins with `c`, and the text behind it. -/
def lexeme (c : Char) (rest : List Char) : Except LexFault (Lexeme × List Char) :=
  if isWordStart c then
    .ok (⟨.word, c :: rest.takeWhile isWordPart⟩, rest.dropWhile isWordPart)
  else if c.isDigit then
    .ok (⟨.number, c :: (numberTail rest).1⟩, (numberTail rest).2)
  else if c = '-' ∨ c = '+' then
    if startsWithDigit rest then .ok (⟨.number, c :: (numberTail rest).1⟩, (numberTail rest).2)
    else .ok (⟨.operator, [c]⟩, rest)
  else
    match quoteMeaning? c with
    | some (what, kind) =>
        match quotedTail c rest with
        | some tail => .ok (⟨kind (String.ofList tail.value), c :: tail.raw⟩, tail.rest)
        | none => .error (.unterminated what)
    | none =>
        if isComparison c then
          .ok (⟨.operator, c :: (comparisonTail c rest).1⟩, (comparisonTail c rest).2)
        else
          match punctuation? c with
          | some kind => .ok (⟨kind, [c]⟩, rest)
          | none => .error (.unexpectedChar c)

theorem numberTail_append (text : List Char) :
    (numberTail text).1 ++ (numberTail text).2 = text := by
  have digits := List.takeWhile_append_dropWhile (p := Char.isDigit) (l := text)
  unfold numberTail
  split
  · rename_i rest point
    rw [point] at digits
    split
    · simp [List.takeWhile_append_dropWhile, digits]
    · exact digits
  · exact digits

theorem QuotedTail.map_push {inner : Option QuotedTail} {tail : QuotedTail} {c : Char}
    {written rest : List Char} (whole : ∀ {t}, inner = some t → t.raw ++ t.rest = rest)
    (pushed : inner.map (·.push c written) = some tail) :
    tail.raw ++ tail.rest = written ++ rest := by
  obtain ⟨t, same, rfl⟩ := Option.map_eq_some_iff.mp pushed
  simp [QuotedTail.push, whole same]

theorem quotedTail_append {quote : Char} {text : List Char} {tail : QuotedTail}
    (closed : quotedTail quote text = some tail) : tail.raw ++ tail.rest = text := by
  fun_induction quotedTail quote text generalizing tail with
  | case1 => simp at closed
  | case2 => cases closed; rfl
  | case3 => simp at closed
  | case4 rest ih => exact QuotedTail.map_push ih closed
  | case5 => cases closed; rfl
  | case6 c d rest _ _ ih => exact QuotedTail.map_push ih closed
  | case7 c d rest _ _ ih => exact QuotedTail.map_push ih closed

theorem comparisonTail_append (c : Char) (text : List Char) :
    (comparisonTail c text).1 ++ (comparisonTail c text).2 = text := by
  unfold comparisonTail
  split
  · rfl
  · split <;> rfl
  · rfl

/-- A lexeme and the text behind it make up the text it was cut from. -/
theorem lexeme_append {c : Char} {rest behind : List Char} {cut : Lexeme}
    (found : lexeme c rest = .ok (cut, behind)) :
    cut.raw ++ behind = c :: rest ∧ cut.raw ≠ [] := by
  unfold lexeme at found
  split at found
  · cases found
    exact ⟨by simp [List.takeWhile_append_dropWhile], by simp⟩
  split at found
  · cases found
    exact ⟨by simp [numberTail_append], by simp⟩
  split at found
  · split at found
    · cases found
      exact ⟨by simp [numberTail_append], by simp⟩
    · cases found
      simp
  split at found
  · split at found
    · rename_i closed
      cases found
      exact ⟨by simp [quotedTail_append closed], by simp⟩
    · cases found
  split at found
  · cases found
    exact ⟨by simp [comparisonTail_append], by simp⟩
  split at found
  · cases found
    simp
  · cases found

theorem lexeme_shorter {c : Char} {rest behind : List Char} {cut : Lexeme}
    (found : lexeme c rest = .ok (cut, behind)) : behind.length < (c :: rest).length := by
  obtain ⟨whole, nonempty⟩ := lexeme_append found
  have := List.length_pos_iff.mpr nonempty
  rw [← whole, List.length_append]
  omega

end AlterRelay.Sql
