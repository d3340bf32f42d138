/-
# AlterRelay.Proofs.Checked.Scanner — tokenizing as a machine

The scanner walks over a source from front to back. It keeps the characters that
are ahead, each with its byte offset, and counts the offset, the line and the column
that it has come to; the last two are words of 32 bits. What it needs to know beyond
the next character, and the text of a token, it cuts from the source.
-/
import AlterRelay.Proofs.Checked.Machine

namespace AlterRelay.Checked

open AlterRelay.Sql
open AlterRelay.Text

set_option autoImplicit false

structure Scanner where
  ahead : List (Nat × Char)
  offset : Nat
  line : UInt32
  column : UInt32

/-- Characters with their byte offsets, of which the first is `offset`. -/
def offsetsFrom (offset : Nat) : List Char → List (Nat × Char)
  | [] => []
  | c :: rest => (offset, c) :: offsetsFrom (offset + c.utf8Size) rest

/-- The scanner behind the next character, `c`, which stands at `offset`. -/
def Scanner.behind? (scanner : Scanner) (offset : Nat) (c : Char) (ahead : List (Nat × Char)) :
    Option Scanner :=
  if c = '\n' then
    (increment? scanner.line).map fun line => ⟨ahead, offset + c.utf8Size, line, 1⟩
  else
    (increment? scanner.column).map fun column =>
      ⟨ahead, offset + c.utf8Size, scanner.line, column⟩

abbrev Scan (α : Type) := Machine Scanner LexError α

namespace Scan

/-! ## Single characters -/

def peek : Scan (Option (Nat × Char)) := do
  return (← get).ahead.head?

def advance : Scan (Option Char) := do
  let scanner ← get
  match scanner.ahead with
  | [] => return none
  | (offset, c) :: ahead =>
      let behind ← checked (scanner.behind? offset c ahead)
      set behind
      return some c

/-- Takes a character, if it is the next one. -/
def accept (expected : Char) : Scan Bool := do
  match ← peek with
  | some (_, c) =>
      if c = expected then
        let _ ← advance
        pure true
      else pure false
  | none => pure false

/-- Turns that have to take characters. -/
def loop {α β : Type} (body : α → Scan (Turn α β)) : α → Scan β :=
  Checked.loop (fun scanner => scanner.ahead.length) body

def advanceWhileTurn (continues : Char → Bool) (_ : Unit) : Scan (Turn Unit Unit) := do
  match ← peek with
  | some (_, c) =>
      if continues c then
        let _ ← advance
        return .again ()
      else return .leave ()
  | none => return .leave ()

def advanceWhile (continues : Char → Bool) : Scan Unit := loop (advanceWhileTurn continues) ()

/-! ## Places -/

/-- Where a token begins. -/
structure Mark where
  start : Nat
  line : UInt32
  column : UInt32

def mark : Scan Mark := do
  let scanner ← get
  return ⟨scanner.offset, scanner.line, scanner.column⟩

def Mark.fault (mark : Mark) (fault : LexFault) : LexError :=
  ⟨fault, mark.line.toNat, mark.column.toNat⟩

/-- The token that began at a mark and ends here. -/
def token (source : String) (kind : TokenKind) (mark : Mark) : Scan Token := do
  let stop := (← get).offset
  let text ← checked (slice? source mark.start stop)
  return ⟨kind, ⟨mark.start, stop, mark.line.toNat, mark.column.toNat⟩, text⟩

/-! ## Trivia -/

def closeCommentTurn (unclosed : LexError) (_ : Unit) : Scan (Turn Unit Unit) := do
  match ← advance with
  | none => throw unclosed
  | some c =>
      if c = '*' then
        if ← accept '/' then return .leave () else return .again ()
      else return .again ()

/-- Behind the opener of a block comment; the fault is that it never closes. -/
def closeComment (unclosed : LexError) : Scan Unit := loop (closeCommentTurn unclosed) ()

def skipTriviaTurn (source : String) (_ : Unit) : Scan (Turn Unit Unit) := do
  match ← peek with
  | none => return .leave ()
  | some (offset, c) =>
      if isBlank c then
        let _ ← advance
        return .again ()
      else
        let rest ← checked (slice? source offset source.utf8ByteSize)
        if c = '#' ∨ ['-', '-'].isPrefixOf rest.toList = true then
          advanceWhile (· != '\n')
          return .again ()
        else if ['/', '*'].isPrefixOf rest.toList = true then
          let mark ← mark
          let _ ← advance
          let _ ← advance
          closeComment (mark.fault (.unterminated .blockComment))
          return .again ()
        else return .leave ()

def skipTrivia (source : String) : Scan Unit := loop (skipTriviaTurn source) ()

/-! ## Shapes of tokens -/

def word (source : String) : Scan Token := do
  let mark ← mark
  advanceWhile isWordPart
  token source .word mark

/-- A point and the digits behind it, if there are any. -/
def fraction (source : String) : Scan Unit := do
  match ← peek with
  | some (offset, c) =>
      if c = '.' then
        let rest ← checked (slice? source (offset + 1) source.utf8ByteSize)
        if startsWithDigit rest.toList then
          let _ ← advance
          advanceWhile Char.isDigit
        else pure ()
      else pure ()
  | none => pure ()

/-- A number, whose sign is already taken. -/
def number (source : String) (mark : Mark) : Scan Token := do
  advanceWhile Char.isDigit
  fraction source
  token source .number mark

def quotedTurn (quote : Char) (unclosed : LexError) (value : List Char) :
    Scan (Turn (List Char) (List Char)) := do
  match ← advance with
  | none => throw unclosed
  | some c =>
      if c = quote then
        if ← accept quote then return .again (value ++ [quote]) else return .leave value
      else if c = backslash ∧ quote ≠ backQuote then
        match ← advance with
        | none => throw unclosed
        | some d => return .again (value ++ [unescape d])
      else return .again (value ++ [c])

/-- The value of a quoted text, behind its quote. -/
def quotedValue (quote : Char) (unclosed : LexError) : Scan (List Char) :=
  loop (quotedTurn quote unclosed) []

def quoted (source : String) (quote : Char) (what : Delimited) (kind : String → TokenKind)
    (mark : Mark) : Scan Token := do
  let _ ← advance
  let value ← quotedValue quote (mark.fault (.unterminated what))
  token source (kind (String.ofList value)) mark

def single (source : String) (kind : TokenKind) (mark : Mark) : Scan Token := do
  let _ ← advance
  token source kind mark

def signed (source : String) (mark : Mark) : Scan Token := do
  let _ ← advance
  match ← peek with
  | some (_, c) =>
      if c.isDigit then number source mark else token source .operator mark
  | none => token source .operator mark

def comparison (source : String) (c : Char) (mark : Mark) : Scan Token := do
  let _ ← advance
  if ← accept '=' then token source .operator mark
  else
    if c = '<' then
      let _ ← accept '>'
      token source .operator mark
    else token source .operator mark

/-! ## Tokens -/

/-- The token that begins with `c`, which is still ahead. -/
def tokenAt (source : String) (c : Char) (mark : Mark) : Scan Token :=
  if isWordStart c then word source
  else if c.isDigit then number source mark
  else if c = '-' ∨ c = '+' then signed source mark
  else
    match quoteMeaning? c with
    | some (what, kind) => quoted source c what kind mark
    | none =>
        if isComparison c then comparison source c mark
        else
          match punctuation? c with
          | some kind => single source kind mark
          | none => throw (mark.fault (.unexpectedChar c))

def nextToken (source : String) : Scan Token := do
  skipTrivia source
  let mark ← mark
  match ← peek with
  | none => token source .endOfInput mark
  | some (_, c) => tokenAt source c mark

def tokensTurn (source : String) (before : List Token) : Scan (Turn (List Token) (List Token)) := do
  let token ← nextToken source
  if token.isEnd then return .leave (before ++ [token]) else return .again (before ++ [token])

def tokens (source : String) : Scan (List Token) := loop (tokensTurn source) []

end Scan

/-- The scanner in front of a source. -/
def Scanner.new (source : String) : Scanner := ⟨offsetsFrom 0 source.toList, 0, 1, 1⟩

/-- The tokens of a source, or its error, unless the machine traps. -/
def tokenize? (source : String) : Option (Except LexError (List Token)) :=
  result? (Scan.tokens source) (.new source)

end AlterRelay.Checked
