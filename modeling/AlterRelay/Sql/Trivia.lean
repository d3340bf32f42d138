/-
# AlterRelay.Sql.Trivia — what stands between tokens

Blanks, line comments and block comments separate tokens and mean nothing. A
line comment starts with `#` or `--` and stops before the next newline; a block
comment stands between its opener and the first closer behind it.

`triviaStep` looks at one unit of trivia, `gap` takes all of it. A block comment
that never closes is a fault of the source; `gap` then tells the trivia in front
of it. Nothing is lost: `gap_append`.
-/
import AlterRelay.Text.Blank

namespace AlterRelay.Sql

open AlterRelay.Text

set_option autoImplicit false

/-- The body of a block comment with its closer, and the text behind it. -/
def blockTail : List Char → Option (List Char × List Char)
  | [] => none
  | '*' :: '/' :: rest => some (['*', '/'], rest)
  | c :: rest => (blockTail rest).map fun (body, behind) => (c :: body, behind)

/-- What stands at the front of a text: a token, an open comment, or something to skip. -/
inductive TriviaStep where
  /-- A token or the end stands here. -/
  | absent
  /-- A block comment opens here and never closes. -/
  | unclosed
  | unit (skipped rest : List Char)

def startsLineComment : List Char → Bool
  | '#' :: _ => true
  | '-' :: '-' :: _ => true
  | _ => false

/-- One blank or one comment. A line comment ends in front of its newline. -/
def triviaStep (text : List Char) : TriviaStep :=
  if startsLineComment text then
    .unit (text.takeWhile (· != '\n')) (text.dropWhile (· != '\n'))
  else
    match text with
    | '/' :: '*' :: body =>
        match blockTail body with
        | none => .unclosed
        | some (comment, rest) => .unit ('/' :: '*' :: comment) rest
    | c :: rest => if isBlank c then .unit [c] rest else .absent
    | [] => .absent

theorem blockTail_append {text body behind : List Char}
    (closed : blockTail text = some (body, behind)) : body ++ behind = text := by
  fun_induction blockTail text generalizing body behind with
  | case1 => simp at closed
  | case2 rest =>
      obtain ⟨rfl, rfl⟩ := by simpa using closed
      rfl
  | case3 c rest _ ih =>
      obtain ⟨⟨inner, behind'⟩, found, same⟩ := Option.map_eq_some_iff.mp closed
      obtain ⟨rfl, rfl⟩ := Prod.mk.inj same
      rw [List.cons_append, ih found]

/-- A unit is taken off the front, and it is never empty. -/
theorem triviaStep_unit {text skipped rest : List Char}
    (taken : triviaStep text = .unit skipped rest) : skipped ++ rest = text ∧ skipped ≠ [] := by
  unfold triviaStep at taken
  split at taken
  · rename_i comment
    obtain ⟨rfl, rfl⟩ := TriviaStep.unit.inj taken
    refine ⟨List.takeWhile_append_dropWhile, ?_⟩
    unfold startsLineComment at comment
    split at comment <;> simp_all
  · split at taken
    · split at taken
      · contradiction
      · rename_i closed
        obtain ⟨rfl, rfl⟩ := TriviaStep.unit.inj taken
        exact ⟨by simp [blockTail_append closed], by simp⟩
    · split at taken
      · obtain ⟨rfl, rfl⟩ := TriviaStep.unit.inj taken
        simp
      · contradiction
    · contradiction

theorem triviaStep_shorter {text skipped rest : List Char}
    (taken : triviaStep text = .unit skipped rest) : rest.length < text.length := by
  obtain ⟨rfl, nonempty⟩ := triviaStep_unit taken
  have := List.length_pos_iff.mpr nonempty
  simp only [List.length_append]
  omega

/-- All trivia at the front, and the text behind it. The error holds the trivia in
front of a block comment that never closes. -/
def gap (text : List Char) : Except (List Char) (List Char × List Char) :=
  match _step : triviaStep text with
  | .absent => .ok ([], text)
  | .unclosed => .error []
  | .unit skipped rest =>
      match gap rest with
      | .ok (more, behind) => .ok (skipped ++ more, behind)
      | .error before => .error (skipped ++ before)
termination_by text.length
decreasing_by exact triviaStep_shorter ‹_›

theorem gap_append {text skipped rest : List Char} (found : gap text = .ok (skipped, rest)) :
    skipped ++ rest = text := by
  fun_induction gap text generalizing skipped rest with
  | case1 text step =>
      obtain ⟨rfl, rfl⟩ := by simpa using found
      rfl
  | case2 => simp at found
  | case3 text unit behind step more final inner ih =>
      obtain ⟨rfl, rfl⟩ := by simpa using found
      rw [List.append_assoc, ih inner, (triviaStep_unit step).1]
  | case4 => simp at found

end AlterRelay.Sql
