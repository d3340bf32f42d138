/-
# AlterRelay.Proofs.Doris.WrittenChange — what a schema change is cut into

With quoting on, a schema change is written so that the Doris side reads exactly
the pieces that were put in: a name is one quoted name, a literal is one string,
and a type is a word with at most two numbers. `Action` lists the three forms
that may stand behind the table, and `SchemaChange.written` says that the text
of a change is cut into the table reference and one of them, whatever characters
stand in its names, default and comment.

The table is given as a text, of which every part between dots is quoted. A part
in back-quotes already is kept as it is, so nothing is promised of it.
-/
import AlterRelay.Doris.ColumnType
import AlterRelay.Doris.SchemaChange
import AlterRelay.Proofs.Sql.Written

namespace AlterRelay.Doris

open AlterRelay.Sql
open AlterRelay.Text

set_option autoImplicit false

/-! ## Forms -/

/-- A word, and one or two numbers in parentheses behind it. -/
inductive IsType : List Lexeme → Prop where
  | bare (name : String) : IsType [.word name]
  | sized (name size : String) : IsType [.word name, .openParen, .number size, .closeParen]
  | scaled (name size scale : String) :
      IsType [.word name, .openParen, .number size, .comma, .number scale, .closeParen]

/-- What a default is written as: its value in quotes, or bare if Doris reads it so. -/
def defaultLexeme (value : String) : Lexeme :=
  if isBareDefault value then .word value else .literal value

/-- An option is its keyword and one further lexeme, or nothing. -/
def optionLexemes (keyword : String) : Option Lexeme → List Lexeme
  | none => []
  | some value => [.word keyword, value]

/-- The comment of a column, unless it is blank. -/
def NewColumn.shownComment (column : NewColumn) : Option String :=
  column.comment.filter fun comment => !allBlank comment

/-- The forms of what stands behind the table. -/
inductive Action : SchemaChange → List Lexeme → Prop where
  | add (column : NewColumn) {type : List Lexeme} (typed : IsType type) :
      Action (.addColumn column)
        ([.word "ADD", .word "COLUMN", .name column.name] ++ type ++
          (optionLexemes "DEFAULT" (column.defaultValue.map defaultLexeme) ++
            optionLexemes "COMMENT" (column.shownComment.map .literal)))
  | drop (column : String) :
      Action (.dropColumn column) [.word "DROP", .word "COLUMN", .name column]
  | rename (oldName newName : String) :
      Action (.renameColumn oldName newName)
        [.word "RENAME", .word "COLUMN", .name oldName, .name newName]

/-- The parts of a table text, which stand between its dots. -/
def tableParts (table : String) : List String := (table.toList.splitOn '.').map String.ofList

/-- A table reference: its parts as quoted names with dots between them. -/
def referenceLexemes (table : String) : List Lexeme :=
  ((tableParts table).map Lexeme.name).intersperse .dot

/-! ## Types -/

theorem notPart : isWordPart '(' = false := by decide

theorem cutInto_size (size : Nat) {rest : List Char} {lexemes : List Lexeme}
    (stops : ∀ c ∈ rest.head?, c.isDigit = false ∧ c ≠ '.') (tail : CutInto rest lexemes) :
    CutInto ((toString size).toList ++ rest) (.number (toString size) :: lexemes) := by
  have digits : (toString size).toList = Nat.toDigits 10 size := Nat.toList_repr
  refine CutInto.number ?_ ?_ stops tail
  · rw [digits]
    exact Nat.toDigits_ne_nil
  · rw [digits, List.all_eq_true]
    exact fun c member => Nat.isDigit_of_mem_toDigits (by decide) (by decide) member

theorem written_sized {name : String} (word : isWordText name.toList = true) (size : Nat) :
    WrittenAs (name.toList ++ '(' :: ((toString size).toList ++ [')']))
      [.word name, .openParen, .number (toString size), .closeParen] := by
  intro rest more stops tail
  have sized := cutInto_size size (by simp) tail.closeParen
  have whole := CutInto.word word (by simp [notPart]) sized.openParen
  simpa using whole

theorem written_scaled {name : String} (word : isWordText name.toList = true)
    (size scale : Nat) :
    WrittenAs
      (name.toList ++ '(' :: ((toString size).toList ++ ',' :: ((toString scale).toList ++ [')'])))
      [.word name, .openParen, .number (toString size), .comma, .number (toString scale),
        .closeParen] := by
  intro rest more stops tail
  have scaled := cutInto_size scale (by simp) tail.closeParen
  have sized := cutInto_size size (by simp) scaled.comma
  have whole := CutInto.word word (by simp [notPart]) sized.openParen
  simpa using whole

/-- The word of a type, without its sizes. -/
def ColumnType.word : ColumnType → String
  | boolean => "BOOLEAN"
  | tinyint => "TINYINT"
  | smallint => "SMALLINT"
  | int => "INT"
  | bigint => "BIGINT"
  | largeint => "LARGEINT"
  | float => "FLOAT"
  | double => "DOUBLE"
  | date => "DATEV2"
  | string => "STRING"
  | json => "JSONB"
  | char _ => "CHAR"
  | varchar _ => "VARCHAR"
  | decimal _ _ => "DECIMALV3"
  | datetime _ => "DATETIMEV2"

/-- The sizes of a type, in the order they are written in. -/
def ColumnType.sizes : ColumnType → List UInt32
  | char bytes | varchar bytes => [bytes]
  | decimal precision scale => [precision, scale]
  | datetime precision => [precision]
  | _ => []

def ColumnType.sizeTexts (type : ColumnType) : List String :=
  type.sizes.map fun size => toString size.toNat

theorem ColumnType.word_isWord (type : ColumnType) : isWordText type.word.toList = true := by
  cases type <;> simp only [word] <;> decide

theorem ColumnType.text_eq (type : ColumnType) :
    type.text = type.word ++
      if type.sizes = [] then "" else "(" ++ ",".intercalate type.sizeTexts ++ ")" := by
  refine String.toList_inj.mp ?_
  cases type <;> simp [text, word, sizes, sizeTexts]

def ColumnType.lexemes (type : ColumnType) : List Lexeme :=
  .word type.word ::
    if type.sizes = [] then []
    else .openParen :: ((type.sizeTexts.map Lexeme.number).intersperse .comma ++ [.closeParen])

theorem ColumnType.lexemes_isType (type : ColumnType) : IsType type.lexemes := by
  cases type with
  | char bytes => exact .sized _ _
  | varchar bytes => exact .sized _ _
  | decimal precision scale => exact .scaled _ _ _
  | datetime precision => exact .sized _ _
  | _ => exact .bare _

theorem ColumnType.written (type : ColumnType) : WrittenAs type.text.toList type.lexemes := by
  have word := type.word_isWord
  rw [type.text_eq]
  cases type with
  | char bytes => simpa [sizes, sizeTexts, lexemes] using written_sized word bytes.toNat
  | varchar bytes => simpa [sizes, sizeTexts, lexemes] using written_sized word bytes.toNat
  | decimal precision scale =>
      simpa [sizes, sizeTexts, lexemes] using written_scaled word precision.toNat scale.toNat
  | datetime precision => simpa [sizes, sizeTexts, lexemes] using written_sized word precision.toNat
  | _ => simpa [sizes, lexemes] using WrittenAs.word word

/-! ## Defaults and comments -/

theorem isAlpha_or_toUpper_eq (c : Char) : c.isAlpha = true ∨ c.toUpper = c := by
  by_cases lower : 'a'.val ≤ c.val ∧ c.val ≤ 'z'.val
  · left
    have listed : c.isLower = true := by
      show (decide (c.val ≥ 'a'.val) && decide (c.val ≤ 'z'.val)) = true
      rw [decide_eq_true lower.1, decide_eq_true lower.2]
      rfl
    show (c.isUpper || c.isLower) = true
    rw [listed, Bool.or_true]
  · exact .inr (dif_neg lower)

theorem isWordPart_of_toUpper {c : Char} (part : isWordPart c.toUpper = true) :
    isWordPart c = true := by
  rcases isAlpha_or_toUpper_eq c with letter | same
  · simp [isWordPart, isAlphabetic_of_isAlpha letter]
  · rwa [same] at part

theorem isWordStart_of_toUpper {c : Char} (start : isWordStart c.toUpper = true) :
    isWordStart c = true := by
  rcases isAlpha_or_toUpper_eq c with letter | same
  · simp [isWordStart, isAlphabetic_of_isAlpha letter]
  · rwa [same] at start

/-- Whether a text is spelt like a word does not depend on the case of its letters. -/
theorem isWordText_of_toUpper {text : String} (spelt : isWordText text.toUpper.toList = true) :
    isWordText text.toList = true := by
  rw [String.toUpper, String.toList_map] at spelt
  cases characters : text.toList with
  | nil => simp [characters, isWordText] at spelt
  | cons c raw =>
      rw [characters, List.map_cons, isWordText, Bool.and_eq_true, List.all_eq_true] at spelt
      obtain ⟨start, parts⟩ := spelt
      rw [isWordText, isWordStart_of_toUpper start, Bool.true_and, List.all_eq_true]
      exact fun d member => isWordPart_of_toUpper (parts _ (List.mem_map_of_mem member))

theorem isWordText_of_isBareDefault {value : String} (bare : isBareDefault value = true) :
    isWordText value.toList = true := by
  apply isWordText_of_toUpper
  unfold isBareDefault at bare
  rcases (Bool.or_eq_true _ _).mp bare with time | null
  · rw [sameIgnoringCase_iff.mp time]
    decide +kernel
  · rw [sameIgnoringCase_iff.mp null]
    decide +kernel

theorem defaultText_written (value : String) :
    WrittenAs (defaultText value).toList [defaultLexeme value] := by
  unfold defaultText defaultLexeme
  by_cases bare : isBareDefault value = true
  · rw [if_pos bare, if_pos bare]
    exact WrittenAs.word (isWordText_of_isBareDefault bare)
  · rw [if_neg bare, if_neg bare, literalText, String.toList_ofList]
    exact WrittenAs.literal value

/-- An option as it is written behind a type: a keyword and a value, or nothing. -/
def optionText (keyword : String) : Option (List Char) → List Char
  | none => []
  | some value => ' ' :: (keyword.toList ++ ' ' :: value)

theorem NewColumn.options_eq (column : NewColumn) :
    column.options.toList =
      optionText "DEFAULT" (column.defaultValue.map fun value => (defaultText value).toList) ++
        optionText "COMMENT" (column.shownComment.map fun value => singleQuoted value.toList) := by
  obtain ⟨name, type, default, comment⟩ := column
  simp only [NewColumn.options, NewColumn.shownComment, String.toList_append]
  congr 1
  · cases default with
    | none => rfl
    | some value => simp [optionText]
  · cases comment with
    | none => rfl
    | some comment =>
        by_cases blank : allBlank comment = true <;>
          simp [optionText, Option.filter, blank, literalText]

theorem written_option {text : List Char} {lexemes : List Lexeme} (first : WrittenAs text lexemes)
    {keyword : String} (word : isWordText keyword.toList = true) (value : Option String)
    {spelling : String → List Char} {lexeme : String → Lexeme}
    (written : ∀ value, WrittenAs (spelling value) [lexeme value]) :
    WrittenAs (text ++ optionText keyword (value.map spelling))
      (lexemes ++ optionLexemes keyword (value.map lexeme)) := by
  cases value with
  | none => simpa [optionText, optionLexemes] using first
  | some value => exact first.space ((WrittenAs.word word).space (written value))

theorem NewColumn.options_written (column : NewColumn) {text : List Char}
    {lexemes : List Lexeme} (first : WrittenAs text lexemes) :
    WrittenAs (text ++ column.options.toList)
      (lexemes ++ (optionLexemes "DEFAULT" (column.defaultValue.map defaultLexeme) ++
        optionLexemes "COMMENT" (column.shownComment.map .literal))) := by
  rw [column.options_eq, ← List.append_assoc, ← List.append_assoc]
  have defaultWord : isWordText "DEFAULT".toList = true := by decide
  have commentWord : isWordText "COMMENT".toList = true := by decide
  have withDefault := written_option first defaultWord column.defaultValue defaultText_written
  exact written_option withDefault commentWord column.shownComment WrittenAs.literal

/-! ## Whole changes -/

theorem columnText_written (name : String) :
    WrittenAs (columnText true name).toList [.name name] := by
  simpa [columnText] using WrittenAs.name name

/-- A table text whose parts stand in no back-quotes of their own. -/
def IsUnquoted (table : String) : Prop :=
  ∀ part ∈ table.toList.splitOn '.', isWrappedIn backQuote part = false

instance (table : String) : Decidable (IsUnquoted table) :=
  inferInstanceAs (Decidable (∀ part ∈ table.toList.splitOn '.', _ = _))

theorem tableText_written {table : String} (unquoted : IsUnquoted table) :
    WrittenAs (tableText true table).toList (referenceLexemes table) := by
  have parts : tableParts table ≠ [] := by simp [tableParts]
  have quoted : (table.toList.splitOn '.').map quotedPart =
      (tableParts table).map fun name => backQuoted name.toList := by
    rw [tableParts, List.map_map]
    refine List.map_congr_left fun part member => ?_
    simp [quotedPart, unquoted part member]
  have whole := WrittenAs.reference parts
  rw [← quoted] at whole
  simpa [tableText, quotedTable, referenceLexemes] using whole

/-- The column, its type, and its default and comment, behind anything that is written. -/
theorem addColumn_written {text : List Char} {lexemes : List Lexeme}
    (first : WrittenAs text lexemes) {column : NewColumn} {type : ColumnType}
    (typed : column.type = type.text) :
    WrittenAs (text ++ ((SchemaChange.addColumn column).action true).toList)
      (lexemes ++ ([.word "ADD", .word "COLUMN", .name column.name] ++ type.lexemes ++
        (optionLexemes "DEFAULT" (column.defaultValue.map defaultLexeme) ++
          optionLexemes "COMMENT" (column.shownComment.map .literal)))) := by
  have add : WrittenAs "ADD".toList [.word "ADD"] := WrittenAs.word (by decide)
  have columnWord : WrittenAs "COLUMN".toList [.word "COLUMN"] := WrittenAs.word (by decide)
  have named := add.space (columnWord.space (columnText_written column.name))
  have whole := column.options_written (first.space (named.space type.written))
  simpa [SchemaChange.action_addColumn, typed] using whole

theorem SchemaChange.action_written {change : SchemaChange} {text : List Char}
    {lexemes : List Lexeme} (first : WrittenAs text lexemes)
    (typed : ∀ column, change = .addColumn column → ∃ type : ColumnType, column.type = type.text) :
    ∃ action, Action change action ∧
      WrittenAs (text ++ (change.action true).toList) (lexemes ++ action) := by
  have columnWord : WrittenAs "COLUMN".toList [.word "COLUMN"] := WrittenAs.word (by decide)
  cases change with
  | addColumn column =>
      obtain ⟨type, same⟩ := typed column rfl
      exact ⟨_, .add column type.lexemes_isType, addColumn_written first same⟩
  | dropColumn column =>
      have drop : WrittenAs "DROP".toList [.word "DROP"] := WrittenAs.word (by decide)
      have whole := first.space (drop.space (columnWord.space (columnText_written column)))
      refine ⟨_, .drop column, ?_⟩
      simpa [action_dropColumn] using whole
  | renameColumn oldName newName =>
      have rename : WrittenAs "RENAME".toList [.word "RENAME"] := WrittenAs.word (by decide)
      have names := (columnText_written oldName).space (columnText_written newName)
      have whole := first.space (rename.space (columnWord.space names))
      refine ⟨_, .rename oldName newName, ?_⟩
      simpa [action_renameColumn] using whole

theorem front_written {table : String} (unquoted : IsUnquoted table) :
    WrittenAs ("ALTER TABLE " ++ tableText true table).toList
      ([.word "ALTER", .word "TABLE"] ++ referenceLexemes table) := by
  have alterWord : WrittenAs "ALTER".toList [.word "ALTER"] := WrittenAs.word (by decide)
  have tableWord : WrittenAs "TABLE".toList [.word "TABLE"] := WrittenAs.word (by decide)
  simpa using alterWord.space (tableWord.space (tableText_written unquoted))

/-- The text of a change is cut into the table and one action, and nothing else. -/
theorem SchemaChange.written {change : SchemaChange} {table : String}
    (unquoted : IsUnquoted table)
    (typed : ∀ column, change = .addColumn column → ∃ type : ColumnType, column.type = type.text) :
    ∃ action, Action change action ∧
      CutInto (change.text true table).toList
        ([.word "ALTER", .word "TABLE"] ++ referenceLexemes table ++ action) := by
  obtain ⟨action, isAction, written⟩ := action_written (front_written unquoted) typed
  refine ⟨action, isAction, ?_⟩
  simpa [SchemaChange.text] using written.cutInto

end AlterRelay.Doris
