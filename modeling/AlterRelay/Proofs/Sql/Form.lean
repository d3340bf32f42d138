/-
# AlterRelay.Proofs.Sql.Form — the ways to write a statement about columns

A form is one way to write a statement down: which of the optional words stand
there, in which case its keywords are spelt, how a character set is introduced,
and the lexemes behind every type. It has the lexemes that it is written with and
the statement that it means.

Whatever a form is made of carries its own well-formedness, so every form can be
written. Names are always quoted and may be any text. The lexemes behind a type
are free, as long as nothing among them would end the definition or belong to the
type itself (`TypeForm.claims`).
-/
import AlterRelay.Proofs.Sql.Enclosed
import AlterRelay.Proofs.Sql.Placeless
import AlterRelay.Proofs.Sql.Written

namespace AlterRelay.Sql

open AlterRelay.Text

set_option autoImplicit false

/-! ## Lexemes -/

/-- A lexeme that its own text is cut into. -/
def Lexeme.IsWhole (lexeme : Lexeme) : Prop := CutInto lexeme.raw [lexeme]

/-- Nothing is cut into an end. -/
theorem Lexeme.IsWhole.kind_ne_endOfInput {lexeme : Lexeme} (whole : lexeme.IsWhole) :
    lexeme.kind ≠ .endOfInput := by
  obtain ⟨pieces, closing, cut, same⟩ := whole
  obtain ⟨piece, rfl, rfl⟩ := List.map_eq_singleton_iff.mp same
  exact forall_segments cut kind_of_lexeme piece List.mem_cons_self

/-- The text of a lexeme, as it stands in a source. -/
def Lexeme.text (lexeme : Lexeme) : String := String.ofList lexeme.raw

def Lexeme.semicolon : Lexeme := ⟨.semicolon, [';']⟩

/-- A word that spells something. -/
structure Word (spells : Token → Prop) where
  text : String
  isWord : isWordText text.toList = true
  spelt : spells (Lexeme.word text).token

/-- The lexeme that a word is cut into. -/
def Word.lexeme {spells : Token → Prop} (word : Word spells) : Lexeme := .word word.text

@[simp] theorem Word.text_token {spells : Token → Prop} (word : Word spells) :
    word.lexeme.token.text = word.text := String.ofList_toList

theorem Word.spells_token {spells : Token → Prop} (word : Word spells) :
    spells word.lexeme.token := word.spelt

/-- A keyword in any spelling. -/
abbrev KeywordWord (keyword : Keyword) := Word fun token => token.isKeyword keyword = true

/-- Keywords are words. -/
theorem Keyword.spelling_isWord (keyword : Keyword) :
    isWordText keyword.spelling.toList = true := by
  cases keyword <;> decide

/-- Keywords are spelt in capitals. -/
theorem Keyword.spelling_toUpper (keyword : Keyword) :
    keyword.spelling.toUpper = keyword.spelling := by
  cases keyword <;> decide +kernel

/-- The spelling of a keyword is read as that keyword. -/
theorem Keyword.spelling_spelt (keyword : Keyword) :
    (Lexeme.word keyword.spelling).token.isKeyword keyword = true := by
  have text : (Lexeme.word keyword.spelling).token.text = keyword.spelling := String.ofList_toList
  have found : Keyword.ofWord? keyword.spelling = some keyword :=
    Keyword.ofWord?_eq_some.mpr keyword.spelling_toUpper
  have word : (Lexeme.word keyword.spelling).token.kind = .word := rfl
  have spelt : (Lexeme.word keyword.spelling).token.keyword? = some keyword := by
    rw [Token.keyword?, if_pos word, text, found]
  rw [Token.isKeyword, spelt, beq_self_eq_true]

/-- A keyword in capitals. -/
def Keyword.capitals (keyword : Keyword) : KeywordWord keyword :=
  ⟨keyword.spelling, keyword.spelling_isWord, keyword.spelling_spelt⟩

/-- A word that may spell anything. -/
abbrev AnyWord := Word fun _ => True

/-- A word that modifies a type. -/
abbrev ModifierWord := Word fun token => Reader.isTypeModifier token = true

/-- A word that need not be there. -/
def optionalWord {spells : Token → Prop} (word : Option (Word spells)) : List Lexeme :=
  word.toList.map Word.lexeme

/-- The two words of a condition. -/
structure IfExists where
  ifWord : KeywordWord .ifWord
  existsWord : KeywordWord .existsWord

def IfExists.lexemes : Option IfExists → List Lexeme
  | none => []
  | some words => [words.ifWord.lexeme, words.existsWord.lexeme]

/-! ## Types -/

/-- An argument of a type: any lexemes but parentheses and commas, at least one. -/
structure ArgumentForm where
  lexemes : List Lexeme
  nonempty : lexemes ≠ []
  whole : ∀ lexeme ∈ lexemes, lexeme.IsWhole
  plain : ∀ lexeme ∈ lexemes, lexeme.kind ∉ [.openParen, .closeParen, .comma]

/-- What is kept of an argument: its texts with a blank between any two. -/
def ArgumentForm.text (form : ArgumentForm) : String :=
  " ".intercalate (form.lexemes.map Lexeme.text)

/-- The arguments of a type, with the modifiers behind them. -/
structure ArgumentsForm where
  first : ArgumentForm
  others : List ArgumentForm
  modifiers : List ModifierWord

def ArgumentsForm.texts (form : ArgumentsForm) : List String :=
  (form.first :: form.others).map ArgumentForm.text

/-- Parentheses around the arguments, commas between them, and the modifiers behind. -/
def ArgumentsForm.lexemes (form : ArgumentsForm) : List Lexeme :=
  .openParen :: (form.first.lexemes ++
    (form.others.flatMap fun other => .comma :: other.lexemes) ++
    .closeParen :: form.modifiers.map Word.lexeme)

/-- The name of a character set, as a word or quoted. -/
inductive CharacterSetName where
  | word (spelt : AnyWord)
  | quoted (name : String)

def CharacterSetName.text : CharacterSetName → String
  | word spelt => spelt.text
  | quoted name => name

def CharacterSetName.lexeme : CharacterSetName → Lexeme
  | word spelt => spelt.lexeme
  | quoted name => .name name

/-- Both spellings of a character set. -/
inductive CharacterSetForm where
  | charset (keyword : KeywordWord .charset) (name : CharacterSetName)
  | characterSet (character : KeywordWord .character) (set : KeywordWord .set)
      (name : CharacterSetName)

def CharacterSetForm.text : CharacterSetForm → String
  | charset _ name => name.text
  | characterSet _ _ name => name.text

def CharacterSetForm.lexemes : CharacterSetForm → List Lexeme
  | charset keyword name => [keyword.lexeme, name.lexeme]
  | characterSet character set name => [character.lexeme, set.lexeme, name.lexeme]

/-- A type with modifiers on both sides of its arguments, if it has any. -/
structure TypeForm where
  word : AnyWord
  modifiers : List ModifierWord
  arguments : Option ArgumentsForm
  characterSet : Option CharacterSetForm

namespace TypeForm

/-- What the type means. Its name is its word with all modifiers behind it. -/
def type (form : TypeForm) : DataType where
  name := " ".intercalate (form.word.text :: ((form.modifiers ++
    form.arguments.elim [] ArgumentsForm.modifiers).map Word.text))
  arguments := form.arguments.elim [] ArgumentsForm.texts
  characterSet := form.characterSet.map CharacterSetForm.text

def lexemes (form : TypeForm) : List Lexeme :=
  form.word.lexeme :: (form.modifiers.map Word.lexeme ++
    form.arguments.elim [] ArgumentsForm.lexemes ++
    form.characterSet.elim [] CharacterSetForm.lexemes)

/-- Whether tokens behind the type would be read as a part of it. A type with a character set
ends there. -/
def claims (form : TypeForm) (tokens : List Token) : Bool :=
  form.characterSet.isNone &&
    (tokens.head?.any Reader.isTypeModifier || tokens.head?.any (·.isKeyword .charset) ||
      (Reader.afterKeywords? [.character, .set] tokens).isSome ||
      form.arguments.isNone && Reader.beginsWith .openParen tokens)

end TypeForm

/-! ## Definitions -/

/-- A definition. What stands behind its type is balanced, and would not be read as a part of the
type. -/
structure DefinitionForm where
  name : String
  type : TypeForm
  specs : List Lexeme
  whole : ∀ lexeme ∈ specs, lexeme.IsWhole
  balanced : depthBehind? 0 (specs.map Lexeme.kind) = some 0
  noSemicolon : ∀ lexeme ∈ specs, lexeme.kind ≠ .semicolon
  unclaimed : type.claims (specs.map Lexeme.token) = false

def DefinitionForm.definition (form : DefinitionForm) : ColumnDefinition :=
  ⟨form.name, form.type.type, form.specs.map Lexeme.text⟩

def DefinitionForm.lexemes (form : DefinitionForm) : List Lexeme :=
  .name form.name :: (form.type.lexemes ++ form.specs)

/-! ## Clauses -/

/-- Every clause that asks for something, with all the words that may stand in it. -/
inductive ClauseForm where
  | drop (keyword : KeywordWord .drop) (column : Option (KeywordWord .column))
      (ifExists : Option IfExists) (name : String)
      (behaviour : Option (Word fun token => Reader.isDropBehaviour token = true))
  | rename (keyword : KeywordWord .rename) (column : Option (KeywordWord .column))
      (oldName : String) (toWord : KeywordWord .toWord) (newName : String)
  | change (keyword : KeywordWord .change) (column : Option (KeywordWord .column))
      (oldName : String) (new : DefinitionForm)
  | modify (keyword : KeywordWord .modify) (column : Option (KeywordWord .column))
      (new : DefinitionForm)
  | addOne (keyword : KeywordWord .add) (column : Option (KeywordWord .column))
      (only : DefinitionForm)
  | addSeveral (keyword : KeywordWord .add) (column : Option (KeywordWord .column))
      (first : DefinitionForm) (others : List DefinitionForm)

namespace ClauseForm

/-- What the clause asks for. Words that mean nothing here are gone. -/
def clause : ClauseForm → Clause
  | drop _ _ _ name _ => { operation := .drop, column := name }
  | rename _ _ oldName _ newName =>
      { operation := .rename, column := newName, oldColumn := oldName }
  | change _ _ oldName new =>
      { operation := .change, column := new.name, oldColumn := oldName,
        definitions := [new.definition] }
  | modify _ _ new =>
      { operation := .modify, column := new.name, definitions := [new.definition] }
  | addOne _ _ only => { operation := .add, column := only.name, definitions := [only.definition] }
  | addSeveral _ _ first others =>
      { operation := .add, column := first.name,
        definitions := (first :: others).map DefinitionForm.definition }

def lexemes : ClauseForm → List Lexeme
  | drop keyword column ifExists name behaviour =>
      keyword.lexeme :: (optionalWord column ++ IfExists.lexemes ifExists ++
        .name name :: optionalWord behaviour)
  | rename keyword column oldName toWord newName =>
      keyword.lexeme :: (optionalWord column ++ [.name oldName, toWord.lexeme, .name newName])
  | change keyword column oldName new =>
      keyword.lexeme :: (optionalWord column ++ .name oldName :: new.lexemes)
  | modify keyword column new => keyword.lexeme :: (optionalWord column ++ new.lexemes)
  | addOne keyword column only => keyword.lexeme :: (optionalWord column ++ only.lexemes)
  | addSeveral keyword column first others =>
      keyword.lexeme :: (optionalWord column ++ .openParen :: (first.lexemes ++
        (others.flatMap fun other => .comma :: other.lexemes) ++ [.closeParen]))

end ClauseForm

/-! ## Statements -/

/-- What stands in front of the clauses. -/
structure Front where
  alter : KeywordWord .alter
  table : KeywordWord .table
  ifExists : Option IfExists
  names : List String
  named : names ≠ []

def Front.words (front : Front) : List Lexeme :=
  front.alter.lexeme :: front.table.lexeme :: IfExists.lexemes front.ifExists

def Front.lexemes (front : Front) : List Lexeme :=
  front.words ++ (front.names.map Lexeme.name).intersperse .dot

/-- A whole statement, with the semicolons behind it. -/
structure StatementForm where
  front : Front
  first : ClauseForm
  others : List ClauseForm
  semicolons : Nat

namespace StatementForm

/-- What the statement means. -/
def statement (form : StatementForm) : AlterTable where
  table := ⟨form.front.names⟩
  ifExists := form.front.ifExists.isSome
  clauses := (form.first :: form.others).map ClauseForm.clause

/-- The lexemes behind the front. -/
def body (form : StatementForm) : List Lexeme :=
  form.first.lexemes ++ (form.others.flatMap fun other => .comma :: other.lexemes) ++
    List.replicate form.semicolons .semicolon

def lexemes (form : StatementForm) : List Lexeme := form.front.lexemes ++ form.body

end StatementForm

end AlterRelay.Sql
