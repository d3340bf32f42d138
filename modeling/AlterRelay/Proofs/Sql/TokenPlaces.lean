/-
# AlterRelay.Proofs.Sql.TokenPlaces — tokens stand one behind the other

A character moves a position down by a line, or along the line. So the places of
the tokens of a source follow one another strictly (`tokenize_ordered`): a line
and a column tell a token apart from all others, wherever the tokens are passed on
to.
-/
import AlterRelay.Proofs.Sql.Cutting

namespace AlterRelay.Sql

set_option autoImplicit false

/-! ## Positions -/

/-- A place that is further down, or on the same line and further along. -/
def Precedes (first second : Nat × Nat) : Prop :=
  first.1 < second.1 ∨ first.1 = second.1 ∧ first.2 < second.2

theorem Precedes.trans {first second third : Nat × Nat} (before : Precedes first second)
    (behind : Precedes second third) : Precedes first third := by
  unfold Precedes at before behind ⊢
  omega

theorem Precedes.ne {first second : Nat × Nat} (before : Precedes first second) :
    first ≠ second := by
  rintro rfl
  unfold Precedes at before
  omega

def Position.place (position : Position) : Nat × Nat := (position.line, position.column)

def Token.place (token : Token) : Nat × Nat := (token.span.line, token.span.column)

theorem Position.precedes_step (position : Position) (c : Char) :
    Precedes position.place (position.step c).place := by
  unfold Position.step Precedes Position.place
  split
  · left
    show position.line < position.line + 1
    omega
  · right
    exact ⟨rfl, Nat.lt_succ_self _⟩

theorem Position.precedes_after (position : Position) {text : List Char} (solid : text ≠ []) :
    Precedes position.place (position.after text).place := by
  induction text generalizing position with
  | nil => exact absurd rfl solid
  | cons c text ih =>
      have here := position.precedes_step c
      rw [Position.after_cons]
      by_cases more : text = []
      · rw [more]
        exact here
      · exact here.trans (ih (position.step c) more)

/-- A place at a position or behind it. -/
def Reaches (position : Position) (place : Nat × Nat) : Prop :=
  position.place = place ∨ Precedes position.place place

theorem Position.reaches_after (position : Position) (text : List Char) :
    Reaches position (position.after text).place := by
  by_cases empty : text = []
  · left
    rw [empty]
    rfl
  · exact .inr (position.precedes_after empty)

theorem Reaches.trans {position further : Position} {place : Nat × Nat}
    (first : Reaches position further.place) (second : Reaches further place) :
    Reaches position place := by
  rcases first with same | before
  · unfold Reaches
    rw [same]
    exact second
  · rcases second with same | behind
    · exact .inr (same ▸ before)
    · exact .inr (before.trans behind)

/-! ## Tokens -/

theorem place_reaches (position : Position) (closing : List Char) (pieces : List Segment) :
    ∀ token ∈ place position closing pieces, Reaches position token.place := by
  induction pieces generalizing position with
  | nil =>
      intro token member
      rw [place, List.mem_singleton] at member
      rw [member]
      exact position.reaches_after closing
  | cons piece pieces ih =>
      intro token member
      have here := position.reaches_after piece.gap
      rcases List.mem_cons.mp member with rfl | behind
      · exact here
      · have there := (position.after piece.gap).reaches_after piece.lexeme.raw
        exact (here.trans there).trans (ih _ token behind)

theorem place_ordered (position : Position) (closing : List Char) {pieces : List Segment}
    (solid : ∀ piece ∈ pieces, piece.lexeme.raw ≠ []) :
    (place position closing pieces).Pairwise fun a b => Precedes a.place b.place := by
  induction pieces generalizing position with
  | nil => exact List.pairwise_singleton _ _
  | cons piece pieces ih =>
      have further := ih ((position.after piece.gap).after piece.lexeme.raw)
        fun other member => solid other (List.mem_cons_of_mem _ member)
      refine List.pairwise_cons.mpr ⟨fun token member => ?_, further⟩
      have here := (position.after piece.gap).precedes_after (solid piece (by simp))
      rcases place_reaches _ closing pieces token member with same | behind
      · exact same ▸ here
      · exact here.trans behind

/-- The tokens of a source stand one behind the other. -/
theorem tokenize_ordered {source : String} {tokens : List Token}
    (lexed : tokenize source = .ok tokens) :
    tokens.Pairwise fun a b => Precedes a.place b.place := by
  unfold tokenize at lexed
  split at lexed
  · cases lexed
  · rename_i cut
    cases lexed
    exact place_ordered .start _ (forall_segments cut fun found => (lexeme_append found).2)

end AlterRelay.Sql
