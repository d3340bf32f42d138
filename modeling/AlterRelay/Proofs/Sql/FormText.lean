/-
# AlterRelay.Proofs.Sql.FormText — every form can be written

A form is written with a space between any two lexemes, except in the table
reference, and that text is cut into the lexemes again
(`StatementForm.text_cutInto`). It holds of every form, because every lexeme of a
form is one that its own text is cut into.
-/
import AlterRelay.Proofs.Sql.WrittenStatement

namespace AlterRelay.Sql

set_option autoImplicit false

/-! ## Whole lexemes -/

/-- Lexemes that their own texts are cut into. -/
def AllWhole (lexemes : List Lexeme) : Prop := ∀ lexeme ∈ lexemes, lexeme.IsWhole

namespace AllWhole

theorem nil : AllWhole [] := by
  intro lexeme member
  cases member

theorem cons {lexeme : Lexeme} {lexemes : List Lexeme} (first : lexeme.IsWhole)
    (others : AllWhole lexemes) : AllWhole (lexeme :: lexemes) :=
  List.forall_mem_cons.mpr ⟨first, others⟩

/-- Lists of whole lexemes are joined to one. -/
theorem append {lexemes more : List Lexeme} (first : AllWhole lexemes) (second : AllWhole more) :
    AllWhole (lexemes ++ more) :=
  List.forall_mem_append.mpr ⟨first, second⟩

theorem comma {lexemes : List Lexeme} (others : AllWhole lexemes) :
    AllWhole (.comma :: lexemes) :=
  cons (CutInto.comma CutInto.nil) others

theorem openParen {lexemes : List Lexeme} (others : AllWhole lexemes) :
    AllWhole (.openParen :: lexemes) :=
  cons (CutInto.openParen CutInto.nil) others

theorem closeParen {lexemes : List Lexeme} (others : AllWhole lexemes) :
    AllWhole (.closeParen :: lexemes) :=
  cons (CutInto.closeParen CutInto.nil) others

theorem name (name : String) {lexemes : List Lexeme} (others : AllWhole lexemes) :
    AllWhole (.name name :: lexemes) :=
  cons (WrittenAs.name name).cutInto others

theorem word {spells : Token → Prop} (word : Word spells) {lexemes : List Lexeme}
    (others : AllWhole lexemes) : AllWhole (word.lexeme :: lexemes) :=
  cons word.isWhole others

/-- Every word is whole. -/
theorem words {spells : Token → Prop} (words : List (Word spells)) :
    AllWhole (words.map Word.lexeme) := by
  intro lexeme member
  obtain ⟨word, -, rfl⟩ := List.mem_map.mp member
  exact word.isWhole

/-- Parts with a comma in front of each. -/
theorem further {α : Type} {lexemesOf : α → List Lexeme} (parts : List α)
    (each : ∀ part, AllWhole (lexemesOf part)) :
    AllWhole (parts.flatMap fun part => .comma :: lexemesOf part) := by
  intro lexeme member
  obtain ⟨part, -, inside⟩ := List.mem_flatMap.mp member
  exact (each part).comma lexeme inside

end AllWhole

open AllWhole

/-! ## Forms -/

/-- A character set is one or two words with a name behind them. -/
theorem CharacterSetForm.allWhole (form : CharacterSetForm) : AllWhole form.lexemes := by
  have named : ∀ name : CharacterSetName, AllWhole [name.lexeme] := by
    intro name
    cases name with
    | word spelt => exact nil.word spelt
    | quoted name => exact nil.name name
  cases form with
  | charset keyword name => exact (named name).word keyword
  | characterSet character set name => exact ((named name).word set).word character

/-- The arguments are whole by assumption, and the marks between them by themselves. -/
theorem ArgumentsForm.allWhole (form : ArgumentsForm) : AllWhole form.lexemes := by
  have others : AllWhole (form.others.flatMap fun other => .comma :: other.lexemes) :=
    further form.others ArgumentForm.whole
  have behind : AllWhole (.closeParen :: form.modifiers.map Word.lexeme) :=
    (words form.modifiers).closeParen
  exact (append (append form.first.whole others) behind).openParen

/-- A type is words, around its arguments. -/
theorem TypeForm.allWhole (form : TypeForm) : AllWhole form.lexemes := by
  have arguments : AllWhole (form.arguments.elim [] ArgumentsForm.lexemes) := by
    cases form.arguments with
    | none => exact nil
    | some arguments => exact arguments.allWhole
  have characterSet : AllWhole (form.characterSet.elim [] CharacterSetForm.lexemes) := by
    cases form.characterSet with
    | none => exact nil
    | some characterSet => exact characterSet.allWhole
  exact (append (append (words form.modifiers) arguments) characterSet).word form.word

/-- Whatever stands behind the type is whole by assumption. -/
theorem DefinitionForm.allWhole (form : DefinitionForm) : AllWhole form.lexemes :=
  (append form.type.allWhole form.whole).name form.name

/-- One case for each form of a clause. -/
theorem ClauseForm.allWhole (form : ClauseForm) : AllWhole form.lexemes := by
  have optional : ∀ {spells : Token → Prop} (word : Option (Word spells)),
      AllWhole (optionalWord word) := fun word => words word.toList
  cases form with
  | drop keyword column ifExists name behaviour =>
      have front := append (optional column) (IfExists.isWhole ifExists)
      exact (append front ((optional behaviour).name name)).word keyword
  | rename keyword column oldName toWord newName =>
      exact (append (optional column) (((nil.name newName).word toWord).name oldName)).word keyword
  | change keyword column oldName new =>
      exact (append (optional column) (new.allWhole.name oldName)).word keyword
  | modify keyword column new => exact (append (optional column) new.allWhole).word keyword
  | addOne keyword column only => exact (append (optional column) only.allWhole).word keyword
  | addSeveral keyword column first others =>
      have inside := append first.allWhole (further others DefinitionForm.allWhole)
      exact (append (optional column) (append inside nil.closeParen).openParen).word keyword

/-- All that stands behind the table name. -/
theorem StatementForm.body_allWhole (form : StatementForm) : AllWhole form.body := by
  have semicolons : AllWhole (List.replicate form.semicolons .semicolon) := by
    intro lexeme member
    rw [List.eq_of_mem_replicate member]
    exact CutInto.mark (by decide) CutInto.nil
  exact append (append form.first.allWhole (further form.others ClauseForm.allWhole)) semicolons

/-! ## Texts -/

/-- The statement as a text, with one space between any two lexemes behind the front. -/
def StatementForm.text (form : StatementForm) : String := form.front.text ++ " " ++ spaced form.body

/-- A written form is cut into its own lexemes. -/
theorem StatementForm.text_cutInto (form : StatementForm) :
    CutInto form.text.toList form.lexemes := by
  have whole := form.front.written.space (spaced_written form.body_allWhole)
  simpa [StatementForm.text, StatementForm.lexemes] using whole.cutInto

end AlterRelay.Sql
