/-
# AlterRelay.Proofs.Sql.WordCase — words may be written in any case

A source may write its words in capitals or not (`Token.Recased`). Every choice
that the reader makes looks at the kind of a token or at the capitals of a word,
so it takes the same branches: it reads statements of one shape whose names differ
in case alone, or it is refused at the same place with the same expectation
(`ofTokens_recased`).

Texts that differ in case alone are one more way to be alike (`Likeness.inCase`).
-/
import AlterRelay.Proofs.Sql.Likeness
import Mathlib.Data.List.Defs

namespace AlterRelay.Sql

open AlterRelay.Text

set_option autoImplicit false

/-! ## Texts -/

theorem sameIgnoringCase_iff_toList {a b : String} :
    sameIgnoringCase a b = true ↔ a.toList.map Char.toUpper = b.toList.map Char.toUpper := by
  rw [sameIgnoringCase_iff, ← String.toList_inj]
  simp [String.toUpper]

theorem sameIgnoringCase_append {a b c d : String} (first : sameIgnoringCase a b = true)
    (second : sameIgnoringCase c d = true) : sameIgnoringCase (a ++ c) (b ++ d) = true := by
  rw [sameIgnoringCase_iff_toList] at first second ⊢
  simp only [String.toList_append, List.map_append, first, second]

/-! ## Tokens -/

/-- Texts are alike if they differ in the case of ASCII letters alone, places only if they are
the same. -/
def Likeness.inCase : Likeness where
  Text a b := sameIgnoringCase a b = true
  Place := Eq
  same _ := sameIgnoringCase_iff.mpr rfl
  joined := sameIgnoringCase_append
  upper := sameIgnoringCase_iff.mp

/-- A token of the same kind at the same place, and of the same text but for the case of the
letters of a word. -/
structure Token.Recased (a b : Token) : Prop where
  kind : a.kind = b.kind
  span : a.span = b.span
  word : a.kind = .word → sameIgnoringCase a.text b.text = true
  other : a.kind ≠ .word → a.text = b.text

instance (a b : Token) : Decidable (a.Recased b) :=
  decidable_of_iff
    (a.kind = b.kind ∧ a.span = b.span ∧
      (a.kind = .word → a.text.toList.map Char.toUpper = b.text.toList.map Char.toUpper) ∧
      (a.kind ≠ .word → a.text = b.text))
    ⟨fun ⟨kind, span, word, other⟩ =>
        ⟨kind, span, fun isWord => sameIgnoringCase_iff_toList.mpr (word isWord), other⟩,
      fun ⟨kind, span, word, other⟩ =>
        ⟨kind, span, fun isWord => sameIgnoringCase_iff_toList.mp (word isWord), other⟩⟩

theorem Token.Recased.alike {a b : Token} (recased : a.Recased b) :
    Likeness.inCase.Tokens a b where
  kind := recased.kind
  text := by
    by_cases word : a.kind = .word
    · exact recased.word word
    · rw [recased.other word]
      exact Likeness.inCase.same b.text
  place := recased.span

/-! ## Statements -/

/-- Tokens whose words differ in case alone spell statements of one shape, with the same
operations and with names that differ in case alone, or they are refused with the same
expectation at the same place. -/
theorem ofTokens_recased {tokens tokens' : List Token}
    (recased : List.Forall₂ Token.Recased tokens tokens') :
    Likeness.inCase.Spelt (Statement.ofTokens tokens) (Statement.ofTokens tokens') :=
  Likeness.ofTokens_alike (recased.imp fun _ _ => Token.Recased.alike)

/-- A statement with words that name an operation, words that stand behind one, and a name in
quotes. -/
def lowerTokens : List Token :=
  (tokenize "alter table `T` rename column A to b, drop if exists c").toOption.getD []

def mixedTokens : List Token :=
  (tokenize "aLTER tABLE `T` rENAME cOLUMN a tO B, dROP iF eXISTS C").toOption.getD []

theorem ofTokens_recased_mixed :
    List.Forall₂ Token.Recased lowerTokens mixedTokens ∧
      Statement.ofTokens lowerTokens = .ok (.alterTable ⟨⟨["T"]⟩, false,
        [{ operation := .rename, column := "b", oldColumn := "A" },
          { operation := .drop, column := "c" }]⟩) ∧
      Statement.ofTokens mixedTokens = .ok (.alterTable ⟨⟨["T"]⟩, false,
        [{ operation := .rename, column := "B", oldColumn := "a" },
          { operation := .drop, column := "C" }]⟩) ∧
      Likeness.inCase.Spelt (Statement.ofTokens lowerTokens) (Statement.ofTokens mixedTokens) := by
  have recased : List.Forall₂ Token.Recased lowerTokens mixedTokens := by decide +kernel
  exact ⟨recased, by decide +kernel, by decide +kernel, ofTokens_recased recased⟩

end AlterRelay.Sql
