/-
# AlterRelay.Proofs.Doris.ParsedChange — a written addition is read back

The statement that adds a column can be read by the reader of source statements,
and it means what was written (`addColumn_parsed`): the parts of the table, the
name of the column, the word and the sizes of its type, and options that are
looked up to the default and the comment again. It holds for all texts: a
default or a comment that is spelt like a keyword of an option stands in quotes,
so it is never taken for one (`literalText_passes`), and the two bare defaults
are no such keyword.

The column is written in one of the forms that every reader takes
(`NewColumn.form`), so nothing about reading is proved here.
-/
import AlterRelay.Proofs.Column.OptionLookup
import AlterRelay.Proofs.Doris.WrittenChange
import AlterRelay.Proofs.Sql.ClauseSequence
import AlterRelay.Proofs.Sql.FormStatement
import AlterRelay.Source.TypeResolver

namespace AlterRelay.Doris

open AlterRelay.Column
open AlterRelay.Source
open AlterRelay.Sql
open AlterRelay.Text

set_option autoImplicit false

/-! ## Values of written options -/

/-- The value of an option is that which was written. -/
theorem literalText_value (value : String) :
    (OptionValue.present (literalText value)).value? = some value := by
  rw [OptionValue.value?, literalText, String.toList_ofList, literalValue_singleQuoted,
    String.ofList_toList]

/-- A word stands for itself. -/
theorem literalValue_of_isWordText {text : List Char} (word : isWordText text = true) :
    literalValue text = text := by
  cases text with
  | nil => rfl
  | cons c rest =>
      have start : isWordStart c = true := by
        rw [isWordText, Bool.and_eq_true] at word
        exact word.1
      have unquoted : c ≠ singleQuote ∧ c ≠ doubleQuote := by
        constructor
        · rintro rfl
          exact absurd start (by decide +kernel)
        · rintro rfl
          exact absurd start (by decide +kernel)
      simp [literalValue, isWrappedIn, unquoted]

/-- A default is written as a literal or as a bare word, and has its value either way. -/
theorem defaultText_value (value : String) :
    (OptionValue.present (defaultText value)).value? = some value := by
  unfold defaultText
  split
  · rename_i bare
    have word := isWordText_of_isBareDefault bare
    rw [OptionValue.value?, literalValue_of_isWordText word, String.ofList_toList]
  · exact literalText_value value

/-- A literal is the keyword of no option. -/
theorem literalText_passes (option : ColumnOption) (value : String) :
    option.Passes (literalText value) := by
  refine Bool.eq_false_iff.mpr fun spelt => ?_
  have heads := congrArg (fun text => text.toList.head?) (sameIgnoringCase_iff.mp spelt)
  rw [option.keyword_toUpper] at heads
  simp only [literalText, String.toUpper, String.toList_map, String.toList_ofList, singleQuoted,
    List.map_cons, List.head?_cons] at heads
  cases option <;> exact absurd heads (by decide)

theorem defaultText_passes (option : ColumnOption) (value : String) :
    option.Passes (defaultText value) := by
  unfold defaultText
  split
  · rename_i bare
    refine Bool.eq_false_iff.mpr fun spelt => ?_
    have same := sameIgnoringCase_iff.mp spelt
    rcases (Bool.or_eq_true _ _).mp bare with time | null
    · rw [sameIgnoringCase_iff.mp time, option.keyword_toUpper] at same
      cases option <;> exact absurd same (by decide +kernel)
    · rw [sameIgnoringCase_iff.mp null, option.keyword_toUpper] at same
      cases option <;> exact absurd same (by decide +kernel)
  · exact literalText_passes option value

/-! ## Looking the options up -/

/-- An option as tokens behind a type, or nothing. -/
def optionSpecs (option : ColumnOption) : Option String → List String
  | none => []
  | some raw => [option.keyword, raw]

theorem optionSpecs_pass {option other : ColumnOption} (different : other ≠ option)
    {raw : Option String} (passes : ∀ text ∈ raw, option.Passes text) :
    ∀ spec ∈ optionSpecs other raw, option.Passes spec := by
  have keyword : option.Passes other.keyword := by
    unfold ColumnOption.Passes
    cases option <;> cases other <;> first | exact absurd rfl different | decide +kernel
  cases raw with
  | none => simp [optionSpecs]
  | some text => simp [optionSpecs, keyword, passes]

/-- The tokens behind the type of a column that was written. -/
def NewColumn.specTexts (column : NewColumn) : List String :=
  optionSpecs .defaultValue (column.defaultValue.map defaultText) ++
    optionSpecs .comment (column.shownComment.map literalText)

/-- `COMMENT` and its text behind the default are not taken for it. -/
theorem NewColumn.lookup_defaultValue (column : NewColumn) :
    (ColumnOption.defaultValue.lookup column.specTexts).value? = column.defaultValue := by
  have comment : ∀ spec ∈ optionSpecs .comment (column.shownComment.map literalText),
      ColumnOption.defaultValue.Passes spec := by
    refine optionSpecs_pass (by decide) fun text written => ?_
    obtain ⟨value, -, rfl⟩ := Option.map_eq_some_iff.mp written
    exact literalText_passes _ value
  unfold specTexts
  cases column.defaultValue with
  | none =>
      rw [Option.map_none, optionSpecs, List.nil_append, ColumnOption.lookup_absent comment]
      rfl
  | some value =>
      rw [Option.map_some, optionSpecs, List.cons_append, List.cons_append,
        ColumnOption.lookup_keyword]
      exact defaultText_value value

/-- The default in front of a comment is passed over, even if its value reads `COMMENT`. -/
theorem NewColumn.lookup_comment (column : NewColumn) :
    (ColumnOption.comment.lookup column.specTexts).value? = column.shownComment := by
  have default : ∀ spec ∈ optionSpecs .defaultValue (column.defaultValue.map defaultText),
      ColumnOption.comment.Passes spec := by
    refine optionSpecs_pass (by decide) fun text written => ?_
    obtain ⟨value, -, rfl⟩ := Option.map_eq_some_iff.mp written
    exact defaultText_passes _ value
  rw [specTexts, ColumnOption.lookup_skip default]
  cases column.shownComment with
  | none => rfl
  | some value =>
      rw [Option.map_some, optionSpecs, ColumnOption.lookup_keyword]
      exact literalText_value value

/-! ## The form of a written column -/

/-- A size is one numeral. -/
def sizeArgument (size : UInt32) : ArgumentForm where
  lexemes := [.number (toString size.toNat)]
  nonempty := List.cons_ne_nil _ _
  whole := by
    intro lexeme member
    rw [List.mem_singleton.mp member]
    simpa [Lexeme.IsWhole, Lexeme.number] using cutInto_size size.toNat (by simp) CutInto.nil
  plain := by simp [Lexeme.number]

theorem sizeArgument_text (size : UInt32) :
    (sizeArgument size).text = toString size.toNat := by
  have number : (Lexeme.number (toString size.toNat)).text = toString size.toNat :=
    String.ofList_toList
  rw [ArgumentForm.text, sizeArgument, List.map_singleton, number]
  rfl

/-- A column type has no modifiers and no character set. -/
def ColumnType.form (type : ColumnType) : TypeForm where
  word := ⟨type.word, type.word_isWord, trivial⟩
  modifiers := []
  arguments :=
    match type.sizes with
    | [] => none
    | first :: others => some ⟨sizeArgument first, others.map sizeArgument, []⟩
  characterSet := none

theorem ColumnType.form_lexemes (type : ColumnType) : type.form.lexemes = type.lexemes := by
  cases type <;> rfl

/-- The type that is read has the word and the sizes that were written. -/
theorem ColumnType.form_type (type : ColumnType) :
    type.form.type = ⟨type.word, type.sizeTexts, none⟩ := by
  unfold TypeForm.type form sizeTexts
  cases type.sizes with
  | nil => rfl
  | cons first others =>
      have texts : ArgumentForm.text ∘ sizeArgument = fun size => toString size.toNat :=
        funext sizeArgument_text
      simp [ArgumentsForm.texts, texts, sizeArgument_text]

/-- The lexemes behind the type of a column. -/
def NewColumn.specs (column : NewColumn) : List Lexeme :=
  optionLexemes "DEFAULT" (column.defaultValue.map defaultLexeme) ++
    optionLexemes "COMMENT" (column.shownComment.map .literal)

/-- A lexeme behind a type: the keyword of an option, a default or a comment. -/
inductive IsSpec : Lexeme → Prop where
  | keyword (option : ColumnOption) : IsSpec (.word option.keyword)
  | default (value : String) : IsSpec (defaultLexeme value)
  | comment (value : String) : IsSpec (.literal value)

theorem NewColumn.specs_isSpec (column : NewColumn) : ∀ lexeme ∈ column.specs, IsSpec lexeme := by
  have default : ∀ lexeme ∈ optionLexemes "DEFAULT" (column.defaultValue.map defaultLexeme),
      IsSpec lexeme := by
    cases column.defaultValue with
    | none => simp [optionLexemes]
    | some value =>
        exact List.forall_mem_cons.mpr
          ⟨.keyword .defaultValue, List.forall_mem_singleton.mpr (.default value)⟩
  have comment : ∀ lexeme ∈ optionLexemes "COMMENT" (column.shownComment.map .literal),
      IsSpec lexeme := by
    cases column.shownComment with
    | none => simp [optionLexemes]
    | some value =>
        exact List.forall_mem_cons.mpr
          ⟨.keyword .comment, List.forall_mem_singleton.mpr (.comment value)⟩
  exact List.forall_mem_append.mpr ⟨default, comment⟩

theorem raw_defaultLexeme (value : String) :
    (defaultLexeme value).raw = (defaultText value).toList := by
  unfold defaultLexeme defaultText
  split
  · rfl
  · exact String.toList_ofList.symm

/-- What is written behind a type stays apart, joined by spaces. -/
theorem IsSpec.isWhole {lexeme : Lexeme} (spec : IsSpec lexeme) : lexeme.IsWhole := by
  cases spec with
  | keyword option =>
      have word : isWordText option.keyword.toList = true := by cases option <;> decide
      exact (WrittenAs.word word).cutInto
  | default value =>
      rw [Lexeme.IsWhole, raw_defaultLexeme]
      exact (defaultText_written value).cutInto
  | comment value => exact (WrittenAs.literal value).cutInto

/-- There is no punctuation among it. -/
theorem IsSpec.kind {lexeme : Lexeme} (spec : IsSpec lexeme) :
    lexeme.kind = .word ∨ ∃ value, lexeme.kind = .string value := by
  cases spec with
  | keyword option => exact .inl rfl
  | default value =>
      unfold defaultLexeme
      split
      · exact .inl rfl
      · exact .inr ⟨value, rfl⟩
  | comment value => exact .inr ⟨value, rfl⟩

theorem IsSpec.stepDepth? {lexeme : Lexeme} (spec : IsSpec lexeme) (depth : Nat) :
    stepDepth? depth lexeme.kind = some depth := by
  rcases spec.kind with word | ⟨value, literal⟩
  · rw [word]
    rfl
  · rw [literal]
    rfl

/-- Without parentheses nothing is left open. -/
theorem NewColumn.specs_balanced (column : NewColumn) :
    depthBehind? 0 (column.specs.map Lexeme.kind) = some 0 := by
  have flat : ∀ lexemes : List Lexeme, (∀ lexeme ∈ lexemes, IsSpec lexeme) →
      depthBehind? 0 (lexemes.map Lexeme.kind) = some 0 := by
    intro lexemes
    induction lexemes with
    | nil => exact fun _ => rfl
    | cons lexeme lexemes ih =>
        intro specs
        obtain ⟨first, others⟩ := List.forall_mem_cons.mp specs
        rw [List.map_cons, depthBehind?, first.stepDepth?]
        exact ih others
  exact flat _ column.specs_isSpec

/-- No keyword stands in front of the options, and no parenthesis. -/
theorem NewColumn.specs_headed (column : NewColumn) :
    Headed Token.IsPlain (column.specs.map Lexeme.token) := by
  have keyword : ∀ option : ColumnOption, (Lexeme.word option.keyword).token.IsPlain := by
    intro option
    have unknown : (Lexeme.word option.keyword).token.keyword? = none := by
      cases option <;> decide +kernel
    exact ⟨unknown, TokenKind.noConfusion, TokenKind.noConfusion⟩
  have comment : Headed Token.IsPlain
      ((optionLexemes "COMMENT" (column.shownComment.map .literal)).map Lexeme.token) := by
    cases column.shownComment with
    | none => exact Headed.nil _
    | some value => exact headed_cons.mpr (keyword .comment)
  rw [specs, List.map_append]
  cases column.defaultValue with
  | none => exact comment
  | some value => exact headed_cons.mpr (keyword .defaultValue)

/-- Plain tokens behind a type are no part of it. -/
theorem unclaimed_of_plain (form : TypeForm) {tokens : List Token}
    (plain : Headed Token.IsPlain tokens) : form.claims tokens = false := by
  cases tokens with
  | nil => simp [TypeForm.claims, Reader.afterKeywords?, Reader.beginsWith]
  | cons token tokens =>
      have plain := headed_cons.mp plain
      have character : Reader.afterKeywords? [.character, .set] (token :: tokens) = none :=
        Reader.afterKeywords?_of_headed (headed_cons.mpr (plain.not_isKeyword .character))
      simp [TypeForm.claims, character, plain.not_isTypeModifier, plain.not_isKeyword .charset,
        Reader.beginsWith, plain.2.2]

/-- A new column as one of the written forms of a definition. -/
def NewColumn.form (column : NewColumn) (type : ColumnType) : DefinitionForm where
  name := column.name
  type := type.form
  specs := column.specs
  whole := fun lexeme member => (column.specs_isSpec lexeme member).isWhole
  balanced := column.specs_balanced
  noSemicolon := by
    intro lexeme member semicolon
    rcases (column.specs_isSpec lexeme member).kind with word | ⟨value, literal⟩
    · rw [semicolon] at word
      cases word
    · rw [semicolon] at literal
      cases literal
  unclaimed := unclaimed_of_plain type.form column.specs_headed

/-- The specs that are kept are the texts that options are looked up in. -/
theorem NewColumn.specs_text (column : NewColumn) :
    column.specs.map Lexeme.text = column.specTexts := by
  have default : ∀ value, (defaultLexeme value).text = defaultText value := by
    intro value
    rw [Lexeme.text, raw_defaultLexeme, String.ofList_toList]
  rw [specs, specTexts, List.map_append]
  congr 1
  · cases column.defaultValue with
    | none => rfl
    | some value => exact congrArg (fun text => ["DEFAULT", text]) (default value)
  · cases column.shownComment <;> rfl

/-- What a written column is read as. -/
def NewColumn.definition (column : NewColumn) (type : ColumnType) : ColumnDefinition :=
  ⟨column.name, ⟨type.word, type.sizeTexts, none⟩, column.specTexts⟩

/-- What such a form means is the definition that is expected back. -/
theorem NewColumn.form_definition (column : NewColumn) (type : ColumnType) :
    (column.form type).definition = column.definition type := by
  show (⟨column.name, type.form.type, column.specs.map Lexeme.text⟩ : ColumnDefinition) = _
  rw [type.form_type, column.specs_text]
  rfl

/-! ## Statements -/

theorem tableParts_ne_nil (table : String) : tableParts table ≠ [] := by simp [tableParts]

/-- The form that an addition is written in. -/
def additionForm (table : String) (column : NewColumn) (type : ColumnType) : StatementForm where
  front := plainFront (tableParts_ne_nil table)
  first := .addOne Keyword.add.capitals (some Keyword.column.capitals) (column.form type)
  others := []
  semicolons := 0

/-- What an addition is read as. -/
def additionRead (table : String) (column : NewColumn) (type : ColumnType) : AlterTable where
  table := ⟨tableParts table⟩
  ifExists := false
  clauses :=
    [{ operation := .add, column := column.name, definitions := [column.definition type] }]

theorem additionForm_statement (table : String) (column : NewColumn) (type : ColumnType) :
    (additionForm table column type).statement = additionRead table column type := by
  rw [additionRead, ← column.form_definition]
  rfl

section

variable {table : String} {column : NewColumn} {type : ColumnType}

theorem addition_body :
    (additionForm table column type).body =
      [.word "ADD", .word "COLUMN", .name column.name] ++ type.lexemes ++ column.specs := by
  rw [← type.form_lexemes, StatementForm.body]
  show ((_ ++ []) ++ [] : List Lexeme) = _
  rw [List.append_nil, List.append_nil]
  rfl

theorem addition_cutInto (unquoted : IsUnquoted table) (typed : column.type = type.text) :
    CutInto ((SchemaChange.addColumn column).text true table).toList
      (additionForm table column type).lexemes := by
  have written := (addColumn_written (front_written unquoted) typed).cutInto
  rw [StatementForm.lexemes, addition_body, SchemaChange.text, String.toList_append]
  exact written

/-- The statement that is sent is read back as an addition of the column. -/
theorem addition_read (unquoted : IsUnquoted table) (typed : column.type = type.text) :
    Statement.parse ((SchemaChange.addColumn column).text true table) =
      .ok (.alterTable (additionRead table column type)) := by
  have headed : Headed (¬·.kind = .dot)
      ((additionForm table column type).body.map Lexeme.token) :=
    headed_cons.mpr TokenKind.noConfusion
  refine toOption_eq_some.mp ?_
  rw [parse_front _ (addition_cutInto unquoted typed) headed, Reader.clauseList_written]
  exact congrArg (fun read => some (Statement.alterTable read))
    (additionForm_statement table column type)

end

/-- Adding a column is undone by reading: whatever its name, default and comment hold, the
statement that adds it is read as the table, the name and the type that were written, and the
default and the comment are looked up again. A blank comment was left out. -/
theorem addColumn_parsed {table : String} (unquoted : IsUnquoted table) {column : NewColumn}
    {connector : Connector} {name : String} {length scale : Option UInt32}
    (typed : TypeResolver.doris connector name length scale = .ok column.type) :
    ∃ (type : ColumnType) (definition : ColumnDefinition), column.type = type.text ∧
      Statement.parse ((SchemaChange.addColumn column).text true table) =
        .ok (.alterTable ⟨⟨tableParts table⟩, false,
          [{ operation := .add, column := column.name, definitions := [definition] }]⟩) ∧
      definition.name = column.name ∧
      definition.type = ⟨type.word, type.sizes.map fun size => toString size.toNat, none⟩ ∧
      (ColumnOption.defaultValue.lookup definition.specs).value? = column.defaultValue ∧
      (ColumnOption.comment.lookup definition.specs).value? =
        column.comment.filter fun comment => !allBlank comment := by
  unfold TypeResolver.doris at typed
  cases resolved : resolveType connector (.ofText name length scale) with
  | error cause =>
      rw [resolved] at typed
      cases typed
  | ok type =>
      rw [resolved] at typed
      have same : column.type = type.text := (Except.ok.inj typed).symm
      exact ⟨type, column.definition type, same, addition_read unquoted same, rfl, rfl,
        column.lookup_defaultValue, column.lookup_comment⟩

/-- A column whose name, default and comment hold the keywords of the options and what would
close their quotes. -/
def hostileColumn : NewColumn where
  name := "a` COMMENT 'b"
  type := "VARCHAR(24)"
  defaultValue := some "COMMENT'\\"
  comment := some "x' DEFAULT null"

theorem addColumn_parsed_hostile :
    IsUnquoted "shop.a`b" ∧
      TypeResolver.doris .mysql "varchar" (some 8) none = .ok hostileColumn.type ∧
      ∃ definition, Statement.parse ((SchemaChange.addColumn hostileColumn).text true "shop.a`b") =
          .ok (.alterTable ⟨⟨tableParts "shop.a`b"⟩, false,
            [{ operation := .add, column := "a` COMMENT 'b", definitions := [definition] }]⟩) ∧
        (ColumnOption.defaultValue.lookup definition.specs).value? = some "COMMENT'\\" ∧
        (ColumnOption.comment.lookup definition.specs).value? = some "x' DEFAULT null" := by
  have unquoted : IsUnquoted "shop.a`b" := by decide +kernel
  have typed : TypeResolver.doris .mysql "varchar" (some 8) none = .ok hostileColumn.type := by
    decide +kernel
  obtain ⟨type, definition, -, read, -, -, default, comment⟩ := addColumn_parsed unquoted typed
  have shown : hostileColumn.comment.filter (fun comment => !allBlank comment) =
      some "x' DEFAULT null" := by decide +kernel
  exact ⟨unquoted, typed, definition, read, default, comment.trans shown⟩

end AlterRelay.Doris
