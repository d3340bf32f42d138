/-
# AlterRelay.Sql.Position — places in a source text

A position counts the bytes of the UTF-8 form from the start, and lines and
columns from one. A column counts characters, and only a newline ends a line.
The position behind a text is a fold over its characters, so it depends on the
text alone and not on how it was cut (`Position.after_append`).
-/
namespace AlterRelay.Sql

set_option autoImplicit false

structure Position where
  offset : Nat
  line : Nat
  column : Nat
  deriving DecidableEq, Repr

namespace Position

def start : Position := ⟨0, 1, 1⟩

/-- The position behind one more character. -/
def step (position : Position) (c : Char) : Position :=
  if c = '\n' then ⟨position.offset + c.utf8Size, position.line + 1, 1⟩
  else ⟨position.offset + c.utf8Size, position.line, position.column + 1⟩

/-- The position behind `text`, which begins at `position`. -/
def after (position : Position) (text : List Char) : Position :=
  text.foldl step position

@[simp] theorem after_nil (position : Position) : position.after [] = position := rfl

@[simp] theorem after_cons (position : Position) (c : Char) (text : List Char) :
    position.after (c :: text) = (position.step c).after text := rfl

theorem after_append (position : Position) (first second : List Char) :
    position.after (first ++ second) = (position.after first).after second :=
  List.foldl_append

end Position

/-- The stretch of source that a token covers: byte offsets of its two ends, and the
line and column of its first character. -/
structure Span where
  start : Nat
  stop : Nat
  line : Nat
  column : Nat
  deriving DecidableEq, Repr

/-- The span of a text that begins at `position`. -/
def Span.of (position : Position) (text : List Char) : Span :=
  ⟨position.offset, (position.after text).offset, position.line, position.column⟩

end AlterRelay.Sql
