/-
# AlterRelay.Proofs.Sql.Displayed — a column definition as it is displayed

The text of a definition has one shape, however the definition was written: its name,
the word of its type with every modifier behind it, the arguments with a comma and a
space between them, `CHARACTER SET`, and the raw texts that follow, each behind a
space. `DisplayedDefinition` is that shape. It carries what makes it fit to be read
again: the lexemes behind the type are balanced and go on with no part of it.

The text is cut into the lexemes of the shape (`DisplayedDefinition.cut`), and these
are read as the definition they display (`definition_displayed`). An argument may be
empty, as in `(, 5)`, except the last one, which would not be read again.
-/
import AlterRelay.Proofs.Sql.AdditionFront

namespace AlterRelay.Sql

open AlterRelay.Text

set_option autoImplicit false

/-! ## Shapes -/

/-- The words of a type, the lexemes of its arguments, and its character set. -/
structure DisplayedType where
  word : AnyWord
  modifiers : List ModifierWord
  arguments : List (List Lexeme)
  characterSet : Option AnyWord
  whole : ∀ argument ∈ arguments, AllWhole argument
  plain : ∀ argument ∈ arguments, ∀ lexeme ∈ argument,
    lexeme.kind ∉ [.openParen, .closeParen, .comma]
  last : arguments.getLast? ≠ some []

/-- A character set is displayed behind both keywords, in capitals. -/
def CharacterSetForm.displayed (name : AnyWord) : CharacterSetForm :=
  .characterSet Keyword.character.capitals Keyword.set.capitals (.word name)

namespace DisplayedType

/-- The name of the type, with its modifiers. -/
def words (shape : DisplayedType) : List Lexeme :=
  shape.word.lexeme :: shape.modifiers.map Word.lexeme

/-- The arguments in parentheses, if there are any. -/
def parenthesized (shape : DisplayedType) : List Lexeme :=
  if shape.arguments.isEmpty then []
  else .openParen :: ([.comma].intercalate shape.arguments ++ [.closeParen])

/-- The character set, always in the spelling of two words. -/
def coding (shape : DisplayedType) : List Lexeme :=
  shape.characterSet.elim [] fun name => (CharacterSetForm.displayed name).lexemes

def lexemes (shape : DisplayedType) : List Lexeme :=
  shape.words ++ shape.parenthesized ++ shape.coding

def type (shape : DisplayedType) : DataType where
  name := spaced shape.words
  arguments := shape.arguments.map spaced
  characterSet := shape.characterSet.map Word.text

end DisplayedType

/-- A name, a type, and the lexemes behind it, which do not seem to belong to the type. -/
structure DisplayedDefinition where
  name : AnyWord
  type : DisplayedType
  specs : List Lexeme
  whole : AllWhole specs
  balanced : depthBehind? 0 (specs.map Lexeme.kind) = some 0
  noSemicolon : ∀ lexeme ∈ specs, lexeme.kind ≠ .semicolon
  ends : type.characterSet = none → Reader.EndsType (specs.map Lexeme.token)
  closed : type.characterSet = none → type.arguments = [] →
    Headed (¬·.kind = .openParen) (specs.map Lexeme.token)

namespace DisplayedDefinition

def lexemes (shape : DisplayedDefinition) : List Lexeme :=
  shape.name.lexeme :: (shape.type.lexemes ++ shape.specs)

def definition (shape : DisplayedDefinition) : ColumnDefinition :=
  ⟨shape.name.text, shape.type.type, shape.specs.map Lexeme.text⟩

end DisplayedDefinition

/-! ## Texts -/

theorem Word.text_lexeme {spells : Token → Prop} (word : Word spells) :
    word.lexeme.text = word.text := String.ofList_toList

namespace DisplayedType

variable (shape : DisplayedType)

theorem words_allWhole : AllWhole shape.words := (AllWhole.words shape.modifiers).word shape.word

/-- The commas between the arguments divide them, and so does the space behind each comma. -/
theorem arguments_cut :
    CutBefore Divides (", ".intercalate (shape.arguments.map spaced)).toList
      ([.comma].intercalate shape.arguments) := by
  have separates : ∀ {text lexemes}, CutBefore Divides text lexemes →
      CutBefore Divides (',' :: ([' '] ++ text)) ([.comma] ++ lexemes) :=
    fun cut _ _ stopped tail => CutInto.comma (cut.behindSpace stopped tail)
  have each : ∀ part ∈ shape.arguments.map fun argument => ((spaced argument).toList, argument),
      CutBefore Divides part.1 part.2 :=
    List.forall_mem_map.mpr fun argument member => spaced_cut (shape.whole argument member)
  have whole := CutBefore.intercalate (divides_of_mark (by decide)) separates each
  simpa [Function.comp_def] using whole

def parenthesizedText : String :=
  if shape.arguments.isEmpty then ""
  else "(" ++ ", ".intercalate (shape.arguments.map spaced) ++ ")"

/-- A parenthesis divides whatever stands in front of it, so the arguments may follow the name at
once. -/
theorem parenthesized_cut :
    CutBefore Divides shape.parenthesizedText.toList shape.parenthesized := by
  unfold parenthesizedText parenthesized
  split
  · exact CutBefore.nil
  · have closing : CutBefore Divides [')'] [.closeParen] :=
      fun _ _ _ tail => CutInto.closeParen tail
    have inside := shape.arguments_cut.append closing (by simpa using divides_of_mark (by decide))
    intro rest more stopped tail
    simpa using CutInto.openParen (inside stopped tail)

def codingText : String :=
  shape.characterSet.elim "" fun name => " CHARACTER SET " ++ name.text

theorem coding_cut : CutBefore Divides shape.codingText.toList shape.coding := by
  unfold codingText coding
  cases shape.characterSet with
  | none => exact CutBefore.nil
  | some name =>
      have words := spaced_cut (CharacterSetForm.displayed name).allWhole
      have text : (spaced (CharacterSetForm.displayed name).lexemes).toList =
          ("CHARACTER SET " ++ name.text).toList := by
        simp [spaced, CharacterSetForm.displayed, CharacterSetForm.lexemes,
          CharacterSetName.lexeme, Word.text_lexeme, Keyword.capitals, Keyword.spelling]
      rw [text] at words
      simpa using words.behindSpace

/-- The text of a type that was read is the text of its shape. -/
theorem text_eq :
    shape.type.text = spaced shape.words ++ shape.parenthesizedText ++ shape.codingText := by
  unfold DataType.text type parenthesizedText codingText
  rw [List.isEmpty_map]
  cases shape.characterSet <;> rfl

/-- The text of a type is cut into its lexemes in front of any divider. -/
theorem cut : CutBefore Divides shape.type.text.toList shape.lexemes := by
  have opens : ∀ c ∈ shape.parenthesizedText.toList.head?, Divides c := by
    unfold parenthesizedText
    split
    · simp
    · simpa using divides_of_mark (by decide)
  have spaces : ∀ c ∈ shape.codingText.toList.head?, Divides c := by
    unfold codingText
    cases shape.characterSet with
    | none => simp
    | some name => simpa using divides_space
  have front := (spaced_cut shape.words_allWhole).append shape.parenthesized_cut opens
  rw [text_eq, String.toList_append, String.toList_append]
  exact front.append shape.coding_cut spaces

end DisplayedType

theorem DisplayedDefinition.cut (shape : DisplayedDefinition) :
    CutBefore Divides shape.definition.text.toList shape.lexemes := by
  have each : ∀ part ∈ (shape.name.text.toList, [shape.name.lexeme]) ::
      (shape.type.type.text.toList, shape.type.lexemes) ::
        shape.specs.map fun lexeme => (lexeme.raw, [lexeme]), CutBefore Divides part.1 part.2 := by
    refine List.forall_mem_cons.mpr ⟨CutBefore.ofLexeme shape.name.isWhole, ?_⟩
    refine List.forall_mem_cons.mpr ⟨shape.type.cut, List.forall_mem_map.mpr ?_⟩
    exact fun lexeme member => CutBefore.ofLexeme (shape.whole lexeme member)
  have whole := CutBefore.spacedParts divides_space each
  simpa [ColumnDefinition.text, definition, lexemes, Lexeme.text, Function.comp_def,
    List.flatMap_map] using whole

/-! ## Reading -/

namespace Reader

variable {rest : List Token}

section Types

variable {shape : DisplayedType}

/-- Where no arguments are shown, none may seem to follow. -/
theorem typeArguments_displayed
    (closed : shape.arguments = [] → Headed (¬·.kind = .openParen) rest) :
    typeArguments (shape.parenthesized.map Lexeme.token ++ rest) =
      .ok (shape.arguments.map spaced, rest) := by
  unfold DisplayedType.parenthesized typeArguments
  by_cases none : shape.arguments = []
  · rw [if_pos (List.isEmpty_iff.mpr none), none, List.map_nil, List.nil_append,
      bind_of_ok (accept_of_headed (closed none))]
    rfl
  · have opening : Lexeme.openParen.token.kind = .openParen := rfl
    rw [if_neg (by simpa using none), List.map_cons, List.cons_append,
      bind_of_ok (accept_of_kind opening _), if_pos rfl, List.map_append, List.append_assoc]
    exact argumentsFrom_written none shape.whole shape.plain shape.last

/-- No modifier stands behind the arguments, and without arguments no parenthesis opens. -/
theorem headed_coding (ends : shape.characterSet = none → EndsType rest)
    (closed : shape.characterSet = none → shape.arguments = [] →
      Headed (¬·.kind = .openParen) rest) :
    Headed (¬isTypeModifier · = true) (shape.coding.map Lexeme.token ++ rest) ∧
      (shape.arguments = [] →
        Headed (¬·.kind = .openParen) (shape.coding.map Lexeme.token ++ rest)) := by
  unfold DisplayedType.coding
  cases bare : shape.characterSet with
  | none => exact ⟨(ends bare).noModifier, closed bare⟩
  | some name =>
      refine ⟨headed_cons.mpr ?_, fun _ => headed_cons.mpr TokenKind.noConfusion⟩
      exact not_isTypeModifier Keyword.character.capitals.spells_token rfl

/-- Without a character set, what follows has to end the type. -/
theorem characterSet_displayed (ends : shape.characterSet = none → EndsType rest) :
    characterSet (shape.coding.map Lexeme.token ++ rest) =
      .ok (shape.characterSet.map Word.text, rest) := by
  unfold DisplayedType.coding
  cases bare : shape.characterSet with
  | none => exact characterSet_absent (ends bare)
  | some name => exact characterSet_written (.displayed name)

/-- A shape is read back whole, if what follows does not belong to it. -/
theorem dataType_displayed (ends : shape.characterSet = none → EndsType rest)
    (closed : shape.characterSet = none → shape.arguments = [] →
      Headed (¬·.kind = .openParen) rest) :
    dataType (shape.lexemes.map Lexeme.token ++ rest) = .ok (shape.type, rest) := by
  obtain ⟨noModifier, notOpen⟩ := headed_coding ends closed
  have noModifier' : Headed (¬isTypeModifier · = true) (shape.parenthesized.map Lexeme.token ++
      (shape.coding.map Lexeme.token ++ rest)) := by
    unfold DisplayedType.parenthesized
    split
    · exact noModifier
    · exact headed_cons.mpr Bool.false_ne_true
  have front := typeModifiers_written shape.modifiers noModifier'
  have split : shape.lexemes.map Lexeme.token ++ rest = shape.word.lexeme.token ::
      ((shape.modifiers.map Word.lexeme).map Lexeme.token ++
        (shape.parenthesized.map Lexeme.token ++ (shape.coding.map Lexeme.token ++ rest))) := by
    simp [DisplayedType.lexemes, DisplayedType.words]
  have name : " ".intercalate (shape.word.text :: (shape.modifiers.map Word.text ++ [])) =
      spaced shape.words := by
    simp [DisplayedType.words, spaced, Word.text_lexeme, Function.comp_def]
  rw [split, dataType, bind_of_ok (typeWord_written shape.word _), bind_of_ok front,
    bind_of_ok (typeArguments_displayed notOpen),
    bind_of_ok (typeModifiers_of_headed noModifier),
    bind_of_ok (characterSet_displayed ends)]
  rw [name]
  rfl

end Types

/-- A displayed definition is read as what it displays, up to what stops it. -/
theorem definition_displayed (shape : DisplayedDefinition) {inParens : Bool}
    (stops : Headed (Token.Stops inParens) rest) :
    definition inParens (shape.lexemes.map Lexeme.token ++ rest) =
      .ok (shape.definition, rest) := by
  have named : shape.name.lexeme.token.identifier? = some shape.name.text :=
    congrArg some shape.name.text_token
  have typed := dataType_displayed (fun bare => (shape.ends bare).append stops)
    fun bare none => (shape.closed bare none).append (stops.mono fun _ stop => stop.isPlain.2.2)
  exact definition_of_parts named typed shape.balanced shape.noSemicolon stops

end Reader

/-! ## Added to a table -/

/-- The clause that adds this column alone. -/
def ColumnDefinition.added (definition : ColumnDefinition) : Clause :=
  { operation := .add, column := definition.name, definitions := [definition] }

/-- The words in front of the displayed definition. -/
def additionFront : List Lexeme :=
  [Keyword.alter.capitals.lexeme, Keyword.table.capitals.lexeme, .word "t",
    Keyword.add.capitals.lexeme, Keyword.column.capitals.lexeme]

namespace DisplayedDefinition

variable (shape : DisplayedDefinition)

/-- The statement that adds a definition as it is displayed. -/
theorem addition_cutInto :
    CutInto ("ALTER TABLE t ADD COLUMN " ++ shape.definition.text).toList
      (additionFront ++ shape.lexemes) := by
  have front : AllWhole additionFront :=
    ((((AllWhole.nil.word Keyword.column.capitals).word Keyword.add.capitals).word
      (⟨"t", by decide, trivial⟩ : AnyWord)).word Keyword.table.capitals).word
        Keyword.alter.capitals
  have text : ("ALTER TABLE t ADD COLUMN " ++ shape.definition.text).toList =
      (spaced additionFront).toList ++ ' ' :: shape.definition.text.toList := by
    have table : (Lexeme.word "t").text = "t" := String.ofList_toList
    simp [spaced, additionFront, table, Word.text_lexeme, Keyword.capitals, Keyword.spelling]
  rw [text]
  exact ((spaced_cut front).space divides_space shape.cut).cutInto

/-- Behind `ADD COLUMN`, exactly one definition is read. -/
theorem clause_displayed :
    Reader.clause (Keyword.add.capitals.lexeme.token :: Keyword.column.capitals.lexeme.token ::
        (shape.lexemes.map Lexeme.token ++ [Token.finish])) =
      .ok (shape.definition.added, [Token.finish]) := by
  have stops : Headed (Token.Stops false) [Token.finish] := headed_cons.mpr rfl
  have notOpen : Headed (¬·.kind = .openParen) (shape.lexemes.map Lexeme.token ++ [Token.finish]) :=
    headed_cons.mpr TokenKind.noConfusion
  have read : Reader.addedDefinitions (shape.lexemes.map Lexeme.token ++ [Token.finish]) =
      .ok ([shape.definition], [Token.finish]) := by
    rw [Reader.addedDefinitions, Reader.bind_of_ok (Reader.accept_of_headed notOpen),
      if_neg Bool.false_ne_true, Reader.bind_of_ok (Reader.definition_displayed shape stops)]
    rfl
  let front : ColumnFront :=
    { add := Keyword.add.capitals
      column := some Keyword.column.capitals
      listed := none
      name := NameForm.word shape.name.text
      apart := fun absent => absurd absent (Option.some_ne_none _) }
  have added := Reader.clause_addition front
    ((shape.type.lexemes ++ shape.specs).map Lexeme.token ++ [Token.finish])
  refine added.trans ?_
  exact Reader.bind_of_ok read

/-- What is displayed is read back, as the one definition of the statement that adds it. -/
theorem parse_addition :
    Statement.parse ("ALTER TABLE t ADD COLUMN " ++ shape.definition.text) =
      .ok (.alterTable ⟨⟨["t"]⟩, false, [shape.definition.added]⟩) := by
  refine toOption_eq_some.mp ?_
  rw [parse_of_cutInto shape.addition_cutInto]
  have noLead : ∀ token ∈ ([] : List Token), token.kind = .semicolon :=
    List.forall_mem_nil _
  have named : [NameForm.word "t"] ≠ [] := List.cons_ne_nil _ _
  have clauses : Reader.clauseList (Keyword.add.capitals.lexeme.token ::
      Keyword.column.capitals.lexeme.token :: (shape.lexemes.map Lexeme.token ++ [Token.finish])) =
        .ok ([shape.definition.added], [Token.finish]) := by
    have noComma : Headed (¬·.kind = .comma) [Token.finish] := headed_cons.mpr TokenKind.noConfusion
    rw [Reader.clauseList, Reader.clausesFrom_eq, bind_assoc,
      Reader.bind_of_ok shape.clause_displayed,
      Reader.bind_of_ok (Reader.furtherClauses_of_headed _ noComma)]
    exact Reader.bind_of_ok (Reader.endOfStatement_written 0)
  have noIf : ¬(Lexeme.word "t").token.isKeyword .ifWord = true := by decide +kernel
  have apart : Reader.afterKeywords? [.ifWord, .existsWord]
      ((([NameForm.word "t"].map NameForm.lexeme).intersperse .dot).map Lexeme.token ++
        Keyword.add.capitals.lexeme.token :: Keyword.column.capitals.lexeme.token ::
          (shape.lexemes.map Lexeme.token ++ [Token.finish])) = none :=
    Reader.afterKeywords?_of_headed (headed_cons.mpr noIf)
  have noDot : ∀ tokens, Headed (¬·.kind = .dot) (Keyword.add.capitals.lexeme.token :: tokens) :=
    fun _ => headed_cons.mpr TokenKind.noConfusion
  have whole := ofTokens_named noLead Keyword.alter.capitals Keyword.table.capitals none named apart
    (noDot _)
  rw [clauses] at whole
  exact congrArg Except.toOption whole

end DisplayedDefinition

end AlterRelay.Sql
