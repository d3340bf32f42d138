/-
# AlterRelay.Text.Quoted — quoted texts, read and written

Two notations meet here.

* A quoted name stands between back-quotes and writes a back-quote inside
  twice (`backQuoted`).
* A literal stands between single or double quotes. Inside it a doubled quote
  is the quote, and a backslash takes the next character with it: `n`, `t`,
  `r` and `0` stand for newline, tab, carriage return and the null character,
  and any other character stands for itself (`literalValue`). A literal is
  always written between single quotes, with a backslash before every backslash
  and single quote (`singleQuoted`).

`literalValue_singleQuoted`: reading a written literal gives the text back.
-/
namespace AlterRelay.Text

set_option autoImplicit false

def singleQuote : Char := '\x27'

def doubleQuote : Char := '\x22'

def backQuote : Char := '\x60'

def backslash : Char := '\x5c'

/-- The character that a backslash before `c` stands for. -/
def unescape (c : Char) : Char :=
  match c with
  | 'n' => '\n'
  | 't' => '\t'
  | 'r' => '\r'
  | '0' => '\x00'
  | other => other

/-! ## Reading -/

/-- Longer than one character, with `quote` at both ends. -/
def isWrappedIn (quote : Char) : List Char → Bool
  | [] => false
  | first :: rest => first == quote && rest.getLast? == some quote

/-- One pair of matching single or double quotes is taken off. -/
def stripQuotes (text : List Char) : List Char :=
  if isWrappedIn singleQuote text || isWrappedIn doubleQuote text then text.tail.dropLast else text

/-- Escapes and doubled quotes resolved; a backslash at the end stands for itself. -/
def resolveEscapes (quote : Char) : List Char → List Char
  | [] => []
  | [c] => [c]
  | c :: d :: rest =>
      if c = backslash then unescape d :: resolveEscapes quote rest
      else if c = quote ∧ d = quote then quote :: resolveEscapes quote rest
      else c :: resolveEscapes quote (d :: rest)

/-- The value that a token's text spells: a literal is unquoted and its escapes are
resolved, any other text stands for itself. -/
def literalValue (text : List Char) : List Char :=
  match text with
  | [] => []
  | first :: rest =>
      if isWrappedIn singleQuote text || isWrappedIn doubleQuote text then
        resolveEscapes first rest.dropLast
      else text

/-! ## Writing -/

/-- Every occurrence of `c` is written twice. -/
def doubled (c : Char) (text : List Char) : List Char :=
  text.flatMap fun d => if d = c then [c, c] else [d]

def backQuoted (name : List Char) : List Char :=
  backQuote :: (doubled backQuote name ++ [backQuote])

/-- A backslash in front of every backslash and single quote. -/
def escaped (value : List Char) : List Char :=
  value.flatMap fun c => if c = backslash ∨ c = singleQuote then [backslash, c] else [c]

def singleQuoted (value : List Char) : List Char :=
  singleQuote :: (escaped value ++ [singleQuote])

/-- A character that is neither a backslash nor the quote stands for itself. -/
theorem resolveEscapes_cons {quote c : Char} (plain : ¬(c = backslash ∨ c = quote))
    (rest : List Char) : resolveEscapes quote (c :: rest) = c :: resolveEscapes quote rest := by
  rw [not_or] at plain
  cases rest with
  | nil => rfl
  | cons d rest => simp [resolveEscapes, plain]

/-- Every escape takes exactly the character that it was put in front of. -/
theorem resolveEscapes_escaped (value : List Char) :
    resolveEscapes singleQuote (escaped value) = value := by
  induction value with
  | nil => rfl
  | cons c rest ih =>
      unfold escaped at ih ⊢
      rw [List.flatMap_cons]
      by_cases special : c = backslash ∨ c = singleQuote
      · have kept : unescape c = c := by rcases special with rfl | rfl <;> rfl
        simp [special, resolveEscapes, kept, ih]
      · simp only [if_neg special, List.singleton_append]
        rw [resolveEscapes_cons special, ih]

/-- Between quotes of either kind stands the literal's body. -/
theorem literalValue_wrapped {quote : Char} (literal : quote = singleQuote ∨ quote = doubleQuote)
    (body : List Char) :
    literalValue (quote :: (body ++ [quote])) = resolveEscapes quote body := by
  have wrapped : isWrappedIn quote (quote :: (body ++ [quote])) = true := by simp [isWrappedIn]
  rcases literal with rfl | rfl <;> simp [literalValue, wrapped]

theorem literalValue_singleQuoted (value : List Char) :
    literalValue (singleQuoted value) = value := by
  rw [singleQuoted, literalValue_wrapped (.inl rfl), resolveEscapes_escaped]

end AlterRelay.Text
