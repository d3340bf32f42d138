/-
# AlterRelay.Json.Symbol — the symbols of a JSON document

A document is cut into brackets, separators and scalars with the four blanks of
JSON between them. Scalars are strict: the three names are in lowercase, a
number has no leading zero and a digit on both sides of its point, and a text
holds no control characters and only the escapes of JSON.

A text escape gives one unit of 16 bits. Two units that make up a surrogate pair
spell one character; half a pair spells none (`charsOf?`).
-/
import AlterRelay.Json.Value

namespace AlterRelay.Json

set_option autoImplicit false

inductive Symbol where
  | openObject
  | closeObject
  | openArray
  | closeArray
  | comma
  | colon
  | scalar (value : Value)

def isJsonBlank (c : Char) : Bool := c == ' ' || c == '\n' || c == '\t' || c == '\r'

/-! ## Texts -/

/-- A piece of a text: a character as it stands, or the unit of an escape. -/
inductive Piece where
  | char (c : Char)
  | unit (n : Nat)

def hexDigit? (c : Char) : Option Nat :=
  if c.isDigit then some (c.toNat - '0'.toNat)
  else if 'a' ≤ c ∧ c ≤ 'f' then some (c.toNat - 'a'.toNat + 10)
  else if 'A' ≤ c ∧ c ≤ 'F' then some (c.toNat - 'A'.toNat + 10)
  else none

def hexUnit? (a b c d : Char) : Option Nat := do
  let a ← hexDigit? a
  let b ← hexDigit? b
  let c ← hexDigit? c
  let d ← hexDigit? d
  pure (((a * 16 + b) * 16 + c) * 16 + d)

/-- The character of an escape of two characters. -/
def shortEscape? : Char → Option Char
  | '\x22' => some '\x22'
  | '\x5c' => some '\x5c'
  | '/' => some '/'
  | 'b' => some '\x08'
  | 'f' => some '\x0c'
  | 'n' => some '\n'
  | 'r' => some '\r'
  | 't' => some '\t'
  | _ => none

/-- The pieces of a text behind its opening quote, and what stands behind its closing one. -/
def textPieces : List Char → Option (List Piece × List Char)
  | [] => none
  | '\x22' :: rest => some ([], rest)
  | '\x5c' :: 'u' :: a :: b :: c :: d :: rest =>
      match hexUnit? a b c d, textPieces rest with
      | some unit, some (pieces, behind) => some (.unit unit :: pieces, behind)
      | _, _ => none
  | '\x5c' :: escaped :: rest =>
      match shortEscape? escaped, textPieces rest with
      | some c, some (pieces, behind) => some (.char c :: pieces, behind)
      | _, _ => none
  | c :: rest =>
      match textPieces rest with
      | some (pieces, behind) =>
          if 0x20 ≤ c.toNat then some (.char c :: pieces, behind) else none
      | none => none

def isHighSurrogate (unit : Nat) : Bool := 0xD800 ≤ unit && unit ≤ 0xDBFF

def isLowSurrogate (unit : Nat) : Bool := 0xDC00 ≤ unit && unit ≤ 0xDFFF

/-- The characters that pieces spell, unless one is half a surrogate pair. -/
def charsOf? : List Piece → Option (List Char)
  | [] => some []
  | .char c :: rest => (charsOf? rest).map (c :: ·)
  | .unit high :: .unit low :: rest =>
      if isHighSurrogate high && isLowSurrogate low then
        let c := Char.ofNat (0x10000 + (high - 0xD800) * 0x400 + (low - 0xDC00))
        (charsOf? rest).map (c :: ·)
      else if isHighSurrogate high || isLowSurrogate high then none
      else (charsOf? (.unit low :: rest)).map (Char.ofNat high :: ·)
  | .unit unit :: rest =>
      if isHighSurrogate unit || isLowSurrogate unit then none
      else (charsOf? rest).map (Char.ofNat unit :: ·)

/-! ## Numbers -/

/-- At least one digit; what stands behind the digits. -/
def digits? (text : List Char) : Option (List Char) :=
  match text with
  | [] => none
  | c :: rest => if c.isDigit then some (rest.dropWhile Char.isDigit) else none

/-- A zero, or digits that do not begin with one. -/
def integer? : List Char → Option (List Char)
  | '0' :: rest => some rest
  | text => digits? text

def fraction? : List Char → Option (List Char)
  | '.' :: rest => digits? rest
  | text => some text

def unsignedExponent : List Char → List Char
  | '+' :: rest => rest
  | '-' :: rest => rest
  | text => text

def exponent? : List Char → Option (List Char)
  | 'e' :: rest => digits? (unsignedExponent rest)
  | 'E' :: rest => digits? (unsignedExponent rest)
  | text => some text

def afterMinus : List Char → List Char
  | '-' :: rest => rest
  | text => text

/-- What stands behind a number. -/
def number? (text : List Char) : Option (List Char) :=
  ((integer? (afterMinus text)).bind fraction?).bind exponent?

/-! ## Symbols -/

/-- The symbol at the front, and what stands behind it. -/
def symbol? : List Char → Option (Symbol × List Char)
  | '\x7b' :: rest => some (.openObject, rest)
  | '\x7d' :: rest => some (.closeObject, rest)
  | '[' :: rest => some (.openArray, rest)
  | ']' :: rest => some (.closeArray, rest)
  | ',' :: rest => some (.comma, rest)
  | ':' :: rest => some (.colon, rest)
  | '\x22' :: rest =>
      match textPieces rest with
      | some (pieces, behind) =>
          some (.scalar (.text ((charsOf? pieces).map String.ofList)), behind)
      | none => none
  | 'n' :: 'u' :: 'l' :: 'l' :: rest => some (.scalar .null, rest)
  | 't' :: 'r' :: 'u' :: 'e' :: rest => some (.scalar (.bool true), rest)
  | 'f' :: 'a' :: 'l' :: 's' :: 'e' :: rest => some (.scalar (.bool false), rest)
  | text => (number? text).map fun behind => (.scalar .number, behind)

theorem textPieces_shorter {text behind : List Char} {pieces : List Piece}
    (read : textPieces text = some (pieces, behind)) : behind.length < text.length := by
  fun_induction textPieces text generalizing pieces behind with
  | case1 => cases read
  | case2 =>
      cases read
      simp
  | case3 a b c d rest unit more left inner _ ih =>
      cases read
      have := ih inner
      simp only [List.length_cons]
      omega
  | case4 => cases read
  | case5 e rest _ c more left inner _ ih =>
      cases read
      have := ih inner
      simp only [List.length_cons]
      omega
  | case6 => cases read
  | case7 c rest _ _ _ more left inner _ ih =>
      cases read
      have := ih inner
      simp only [List.length_cons]
      omega
  | case8 => cases read
  | case9 => cases read

theorem digits?_shorter {text behind : List Char} (read : digits? text = some behind) :
    behind.length < text.length := by
  unfold digits? at read
  split at read
  · cases read
  · rename_i c rest
    split at read
    · cases read
      have := (List.dropWhile_suffix Char.isDigit (l := rest)).length_le
      simp only [List.length_cons]
      omega
    · cases read

theorem integer?_shorter {text behind : List Char} (read : integer? text = some behind) :
    behind.length < text.length := by
  unfold integer? at read
  split at read
  · cases read
    simp
  · exact digits?_shorter read

theorem fraction?_le {text behind : List Char} (read : fraction? text = some behind) :
    behind.length ≤ text.length := by
  unfold fraction? at read
  split at read
  · have := digits?_shorter read
    simp only [List.length_cons]
    omega
  · cases read
    exact Nat.le_refl _

theorem unsignedExponent_le (text : List Char) : (unsignedExponent text).length ≤ text.length := by
  unfold unsignedExponent
  split <;> simp

theorem exponent?_le {text behind : List Char} (read : exponent? text = some behind) :
    behind.length ≤ text.length := by
  unfold exponent? at read
  split at read
  · rename_i rest
    have := digits?_shorter read
    have := unsignedExponent_le rest
    simp only [List.length_cons]
    omega
  · rename_i rest
    have := digits?_shorter read
    have := unsignedExponent_le rest
    simp only [List.length_cons]
    omega
  · cases read
    exact Nat.le_refl _

theorem number?_shorter {text behind : List Char} (read : number? text = some behind) :
    behind.length < text.length := by
  obtain ⟨middle, read, last⟩ := Option.bind_eq_some_iff.mp read
  obtain ⟨first, read, fraction⟩ := Option.bind_eq_some_iff.mp read
  have sign : (afterMinus text).length ≤ text.length := by
    unfold afterMinus
    split <;> simp
  have := integer?_shorter read
  have := fraction?_le fraction
  have := exponent?_le last
  omega

theorem symbol?_shorter {text behind : List Char} {symbol : Symbol}
    (read : symbol? text = some (symbol, behind)) : behind.length < text.length := by
  unfold symbol? at read
  split at read
  case h_7 =>
    split at read
    · rename_i inner
      cases read
      have := textPieces_shorter inner
      simp only [List.length_cons]
      omega
    · cases read
  case h_11 =>
    obtain ⟨left, inner, same⟩ := Option.map_eq_some_iff.mp read
    cases same
    exact number?_shorter inner
  all_goals
    cases read
    simp only [List.length_cons]
    omega

/-- All symbols of a text. -/
def symbolsOf? (text : List Char) : Option (List Symbol) :=
  match _start : text.dropWhile isJsonBlank with
  | [] => some []
  | c :: rest =>
      match _read : symbol? (c :: rest) with
      | none => none
      | some (symbol, behind) => (symbolsOf? behind).map (symbol :: ·)
termination_by text.length
decreasing_by
  have shorter := symbol?_shorter ‹_›
  have := (List.dropWhile_suffix isJsonBlank (l := text)).length_le
  rw [‹text.dropWhile isJsonBlank = _›] at this
  omega

end AlterRelay.Json
