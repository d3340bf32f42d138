/-
# AlterRelay.Proofs.Sql.TriviaForms — what trivia are made of

`IsTrivia` lists the forms of what may stand between tokens: blanks, line comments
up to the newline that has to follow, and block comments up to their first closer.
Only at the end of a source may the end stand for that newline.

A gap that is cut off is trivia (`isTrivia_of_gap`). Conversely trivia are passed
over whatever stands behind them (`gap_of_isTrivia`), so they can be put in front
of any text.
-/
import AlterRelay.Proofs.Sql.Cutting
import Mathlib.Data.List.TakeWhile

namespace AlterRelay.Sql

open AlterRelay.Text

set_option autoImplicit false

/-! ## Forms -/

def lineOpeners : List (List Char) := [['#'], ['-', '-']]

def blockOpener : List Char := ['/', '*']

def blockCloser : List Char := ['*', '/']

/-- What stands between tokens, or behind the last one where `atEnd` holds. -/
inductive IsTrivia (atEnd : Bool) : List Char → Prop where
  | nil : IsTrivia atEnd []
  | blank {c : Char} {more : List Char} (blank : isBlank c = true)
      (behind : IsTrivia atEnd more) : IsTrivia atEnd (c :: more)
  | line {opener body more : List Char} (opens : opener ∈ lineOpeners) (within : '\n' ∉ body)
      (ends : more.head? = some '\n' ∨ atEnd = true ∧ more = []) (behind : IsTrivia atEnd more) :
      IsTrivia atEnd (opener ++ body ++ more)
  | block {body more : List Char} (within : ¬blockCloser <:+: body)
      (behind : IsTrivia atEnd more) : IsTrivia atEnd (blockOpener ++ body ++ blockCloser ++ more)

/-! ## Block comments -/

/-- A block comment that begins with `c` goes on unless its closer stands there. -/
theorem blockTail_cons {c : Char} {rest : List Char} (goes : ¬blockCloser <+: c :: rest) :
    blockTail (c :: rest) =
      (blockTail rest).map fun (body, behind) => (c :: body, behind) := by
  apply blockTail.eq_3
  rintro tail rfl rfl
  exact goes (List.prefix_append blockCloser tail)

/-- A comment ends at the first closer behind its opener. -/
theorem blockTail_eq_some_iff {text comment behind : List Char} :
    blockTail text = some (comment, behind) ↔
      ∃ body, comment = body ++ blockCloser ∧ text = comment ++ behind ∧
        ¬blockCloser <:+: body := by
  constructor
  · intro closed
    fun_induction blockTail text generalizing comment behind with
    | case1 => cases closed
    | case2 rest =>
        cases closed
        exact ⟨[], rfl, rfl, by decide⟩
    | case3 c rest notCloser ih =>
        obtain ⟨⟨comment', behind'⟩, found, same⟩ := Option.map_eq_some_iff.mp closed
        cases same
        obtain ⟨body, rfl, rfl, within⟩ := ih found
        refine ⟨c :: body, rfl, rfl, fun inside => ?_⟩
        rcases List.infix_cons_iff.mp inside with front | further
        · obtain ⟨tail, same⟩ := front
          obtain ⟨rfl, rfl⟩ := List.cons.inj same
          exact notCloser _ rfl rfl
        · exact within further
  · rintro ⟨body, rfl, rfl, within⟩
    induction body with
    | nil => rfl
    | cons c body ih =>
        have goes : ¬blockCloser <+: c :: (body ++ blockCloser ++ behind) := by
          rintro ⟨tail, same⟩
          injection same with star slash
          subst star
          -- a star at the end of the body stands in front of the star of the closer
          cases body with
          | nil =>
              injection slash with same
              exact absurd same (by decide)
          | cons d body =>
              injection slash with same
              subst same
              exact within (List.prefix_append blockCloser body).isInfix
        have further := ih fun inside => within (List.infix_cons inside)
        rw [List.cons_append, List.cons_append, blockTail_cons goes, further]
        rfl

/-! ## Units of trivia -/

theorem startsLineComment_eq_true_iff {text : List Char} :
    startsLineComment text = true ↔ ∃ opener ∈ lineOpeners, opener <+: text := by
  constructor
  · intro comment
    unfold startsLineComment at comment
    split at comment
    · exact ⟨['#'], by decide, List.prefix_append ['#'] _⟩
    · exact ⟨['-', '-'], by decide, List.prefix_append ['-', '-'] _⟩
    · cases comment
  · rintro ⟨opener, opens, rest, rfl⟩
    simp only [lineOpeners, List.mem_cons, List.not_mem_nil, or_false] at opens
    rcases opens with rfl | rfl <;> rfl

theorem lineOpener_within_line {opener : List Char} (opens : opener ∈ lineOpeners) :
    ∀ c ∈ opener, (c != '\n') = true := by
  simp only [lineOpeners, List.mem_cons, List.not_mem_nil, or_false] at opens
  rcases opens with rfl | rfl <;> simp

/-- The line that a comment takes up to the newline behind it. -/
theorem triviaStep_line {opener body behind : List Char} (opens : opener ∈ lineOpeners)
    (within : '\n' ∉ body) (ends : ∀ c ∈ behind.head?, c = '\n') :
    triviaStep (opener ++ body ++ behind) = .unit (opener ++ body) behind := by
  have comment : startsLineComment (opener ++ body ++ behind) = true :=
    startsLineComment_eq_true_iff.mpr
      ⟨opener, opens, by rw [List.append_assoc]; exact List.prefix_append opener _⟩
  have inside : ∀ c ∈ opener ++ body, (c != '\n') = true := by
    intro c member
    rcases List.mem_append.mp member with front | further
    · exact lineOpener_within_line opens c front
    · rw [bne_iff_ne]
      rintro rfl
      exact within further
  obtain ⟨taken, dropped⟩ := span_before (· != '\n') (opener ++ body) behind
    (.inr fun c head => by simp [ends c head])
  unfold triviaStep
  rw [if_pos comment, taken, dropped, List.takeWhile_eq_self_iff.mpr inside,
    List.dropWhile_eq_nil_iff.mpr inside]
  rfl

theorem triviaStep_block {body : List Char} (within : ¬blockCloser <:+: body)
    (behind : List Char) :
    triviaStep (blockOpener ++ body ++ blockCloser ++ behind) =
      .unit (blockOpener ++ body ++ blockCloser) behind := by
  have closed : blockTail (body ++ blockCloser ++ behind) = some (body ++ blockCloser, behind) :=
    blockTail_eq_some_iff.mpr ⟨body, rfl, rfl, within⟩
  rw [List.append_assoc] at closed
  simp [triviaStep, startsLineComment, blockOpener, closed]

/-! ## Gaps -/

/-- Where a gap ends, no further trivia begin. -/
theorem triviaStep_of_gap {text skipped rest : List Char}
    (found : gap text = .ok (skipped, rest)) : triviaStep rest = .absent := by
  fun_induction gap text generalizing skipped rest with
  | case1 text absent =>
      cases found
      exact absent
  | case2 => cases found
  | case3 text unit behind step more final inner ih =>
      cases found
      exact ih inner
  | case4 => cases found

theorem ne_newline_of_absent {text : List Char} (absent : triviaStep text = .absent) :
    text.head? ≠ some '\n' := by
  intro newline
  have solid := (triviaStep_eq_absent_iff.mp absent).2.2 '\n' newline
  exact absurd solid (by decide)

/-- A unit in front of trivia makes trivia again. A line comment among them stops where its
text ends or at a newline, and `ends` says that a newline is what follows. -/
theorem isTrivia_of_unit {text unit rest more : List Char} {atEnd : Bool}
    (step : triviaStep text = .unit unit rest)
    (ends : rest = [] ∨ rest.head? = some '\n' → more.head? = some '\n' ∨ atEnd = true ∧ more = [])
    (behind : IsTrivia atEnd more) : IsTrivia atEnd (unit ++ more) := by
  unfold triviaStep at step
  split at step
  · rename_i comment
    cases step
    obtain ⟨opener, opens, body, rfl⟩ := startsLineComment_eq_true_iff.mp comment
    rw [List.takeWhile_append_of_pos (lineOpener_within_line opens)]
    rw [List.dropWhile_append_of_pos (lineOpener_within_line opens)] at ends
    refine .line opens (fun newline => ?_) (ends ?_) behind
    · simpa using List.mem_takeWhile_imp newline
    · cases left : body.dropWhile (· != '\n') with
      | nil => exact .inl rfl
      | cons c left' =>
          have stop := List.head?_dropWhile_not (· != '\n') body
          rw [left] at stop
          exact .inr (by simpa using stop)
  · split at step
    · split at step
      · cases step
      · rename_i closed
        cases step
        obtain ⟨body, rfl, -, within⟩ := blockTail_eq_some_iff.mp closed
        have whole := IsTrivia.block within behind
        simpa [blockOpener] using whole
    · split at step
      · rename_i blank
        cases step
        exact .blank blank behind
      · cases step
    · cases step

/-- A gap that is cut off is trivia. -/
theorem isTrivia_of_gap {text skipped rest : List Char}
    (found : gap text = .ok (skipped, rest)) : IsTrivia rest.isEmpty skipped := by
  fun_induction gap text generalizing skipped rest with
  | case1 =>
      cases found
      exact .nil
  | case2 => cases found
  | case3 text unit behind step more final inner ih =>
      cases found
      refine isTrivia_of_unit step (fun ends => ?_) (ih inner)
      have whole := gap_append inner
      have solid := ne_newline_of_absent (triviaStep_of_gap inner)
      rcases ends with rfl | newline
      · right
        simpa [and_comm] using whole
      · left
        cases more with
        | nil =>
            rw [List.nil_append] at whole
            exact absurd (whole ▸ newline) solid
        | cons c more =>
            rw [← whole] at newline
            exact newline
  | case4 => cases found

/-- Trivia are passed over in front of any text, and those of an end at the end. -/
theorem gap_of_isTrivia {atEnd : Bool} {skipped : List Char} (trivia : IsTrivia atEnd skipped)
    {rest more behind : List Char} (last : atEnd = true → rest = [])
    (found : gap rest = .ok (more, behind)) :
    gap (skipped ++ rest) = .ok (skipped ++ more, behind) := by
  induction trivia with
  | nil => exact found
  | blank blank _ ih => exact gap_blank blank ih
  | @line opener body tail opens within ends _ ih =>
      have ends' : ∀ c ∈ (tail ++ rest).head?, c = '\n' := by
        intro c head
        rcases ends with newline | ⟨final, rfl⟩
        · rw [List.head?_append, newline] at head
          exact (Option.some.inj head).symm
        · rw [last final] at head
          cases head
      have whole := gap_of_unit (triviaStep_line opens within ends') ih
      simpa using whole
  | @block body tail within _ ih =>
      have whole := gap_of_unit (triviaStep_block within (tail ++ rest)) ih
      simpa using whole

end AlterRelay.Sql
