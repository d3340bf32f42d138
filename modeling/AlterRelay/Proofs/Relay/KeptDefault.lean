/-
# AlterRelay.Proofs.Relay.KeptDefault — a default keeps its meaning

The default of an added column is the token behind `DEFAULT` in the source. If it
is a literal, the produced statement has one string literal behind its own
`DEFAULT`, and both spell the same value (`WrittenFor.literal`). Only the two
values that Doris reads bare are written bare, and a literal loses its quotes with
them (`WrittenFor.bareLiteral`): quotes are taken off where the value is read, and
what is bare is decided where it is written. Any other token that spells such a
value is a word (`WrittenFor.bareWord`).

The default stands behind a front, with the table, the name and the type in it.
Nothing that is written behind a front can save one that ends in a comment or in
the middle of a name. Of a front of whole tokens, all of them are kept, and the
default is read behind them. With quoting on the front is one, if the resolver
answers with whole tokens, as `TypeResolver.doris` does, and if what is kept of the
table are quoted names. `relay_default` says so of every statement that is relayed,
and `null_literal_written_bare` what each of these conditions excludes.
-/
import AlterRelay.Proofs.Column.LiteralToken
import AlterRelay.Proofs.Column.OptionLookup
import AlterRelay.Proofs.Doris.TableReference
import AlterRelay.Proofs.Relay.Accounting
import AlterRelay.Proofs.Sql.Respacing
import AlterRelay.Proofs.Sql.SourceTokens

namespace AlterRelay.Relay

open AlterRelay.Column
open AlterRelay.Doris
open AlterRelay.Source
open AlterRelay.Sql
open AlterRelay.Text

set_option autoImplicit false

/-! ## The token of a default, and what is written for it -/

/-- A literal in quotes of either kind, with the value that it spells. -/
def IsLiteral (token : Token) (value : String) : Prop :=
  token.kind = .string value ∨ token.kind = .doubleQuoted value

/-- The lexeme that is written for the value token of a default. -/
inductive WrittenFor (token : Token) : Lexeme → Prop where
  | literal {value : String} (literal : IsLiteral token value)
      (solid : isBareDefault value = false) : WrittenFor token (.literal value)
  | bareLiteral {value : String} (literal : IsLiteral token value)
      (bare : isBareDefault value = true) : WrittenFor token (.word value)
  | bareWord (word : token.kind = .word) (bare : isBareDefault token.text = true) :
      WrittenFor token (.word token.text)
  | other (other : ∀ value, ¬IsLiteral token value) (solid : isBareDefault token.text = false) :
      WrittenFor token (.literal token.text)

/-- What a default is written as, by what was found among the tokens of a definition: the value
stands behind its keyword there. -/
inductive DefaultFor (run : List Token) : OptionValue → Option Lexeme → Prop where
  | absent : DefaultFor run .absent none
  | dangling : DefaultFor run .dangling none
  | present {keyword token : Token} {value : Lexeme} (stands : [keyword, token] <:+: run)
      (spelt : sameIgnoringCase "DEFAULT" keyword.text = true) (written : WrittenFor token value) :
      DefaultFor run (.present token.text) (some value)

section

variable {source : String} {tokens : List Token} {token : Token}

/-- A literal has the value that it was cut with. -/
theorem value_of_literal (lexed : tokenize source = .ok tokens) (member : token ∈ tokens)
    {value : String} (literal : IsLiteral token value) :
    (OptionValue.present token.text).value? = some value := by
  obtain ⟨lexemes, cut, among⟩ := cutInto_of_tokenize lexed
  rcases among token member with inside | ⟨final, rfl⟩
  · have decodes := cut.forall_lexemes decodesAlike_of_lexeme token.lexeme inside
    exact congrArg some (decodes value literal)
  · simp [IsLiteral, Token.endAt] at literal

/-- A token that is no literal has its own text for a value. -/
theorem value_of_other (lexed : tokenize source = .ok tokens) (member : token ∈ tokens)
    (other : ∀ value, ¬IsLiteral token value) :
    (OptionValue.present token.text).value? = some token.text := by
  obtain ⟨lexemes, cut, among⟩ := cutInto_of_tokenize lexed
  rcases among token member with inside | ⟨final, rfl⟩
  · have stands := cut.forall_lexemes standsForItself_of_lexeme token.lexeme inside
    have same : literalValue token.text.toList = token.text.toList :=
      stands fun value => not_or.mp (other value)
    rw [OptionValue.value?, same, String.ofList_toList]
  · rfl

/-- A token that is spelt like a word is one. -/
theorem kind_of_isWordText (lexed : tokenize source = .ok tokens) (member : token ∈ tokens)
    (word : isWordText token.text.toList = true) : token.kind = .word := by
  obtain ⟨lexemes, cut, among⟩ := cutInto_of_tokenize lexed
  rcases among token member with inside | ⟨final, rfl⟩
  · have whole : CutInto token.text.toList [token.lexeme] :=
      isWhole_of_cutInto cut token.lexeme inside
    have same := whole.unique (WrittenAs.word word).cutInto
    exact congrArg Lexeme.kind (List.singleton_inj.mp same)
  · cases word

theorem writtenFor_of_value (lexed : tokenize source = .ok tokens) (member : token ∈ tokens)
    {value : String} (decoded : (OptionValue.present token.text).value? = some value) :
    WrittenFor token (defaultLexeme value) := by
  unfold defaultLexeme
  by_cases literal : ∃ spelled, IsLiteral token spelled
  · obtain ⟨spelled, literal⟩ := literal
    rw [value_of_literal lexed member literal] at decoded
    obtain rfl := Option.some.inj decoded
    split
    · rename_i bare
      exact .bareLiteral literal bare
    · rename_i solid
      exact .literal literal (Bool.eq_false_iff.mpr solid)
  · rw [not_exists] at literal
    rw [value_of_other lexed member literal] at decoded
    obtain rfl := Option.some.inj decoded
    split
    · rename_i bare
      exact .bareWord (kind_of_isWordText lexed member (isWordText_of_isBareDefault bare)) bare
    · rename_i solid
      exact .other literal (Bool.eq_false_iff.mpr solid)

/-- Two texts that stand together are the texts of two tokens that do. -/
theorem pair_of_texts {run : List Token} {first second : String}
    (stands : [first, second] <:+: run.map Token.text) :
    ∃ a b, [a, b] <:+: run ∧ a.text = first ∧ b.text = second := by
  obtain ⟨before, behind, same⟩ := stands
  obtain ⟨front, rest, rfl, whole, -⟩ := List.map_eq_append_iff.mp same.symm
  obtain ⟨before', pair, rfl, -, both⟩ := List.map_eq_append_iff.mp whole
  obtain ⟨a, others, rfl, first', one⟩ := List.map_eq_cons_iff.mp both
  obtain ⟨b, none, rfl, second', nil⟩ := List.map_eq_cons_iff.mp one
  obtain rfl := List.map_eq_nil_iff.mp nil
  exact ⟨a, b, ⟨before', rest, rfl⟩, first', second'⟩

theorem defaultFor_of_texts (lexed : tokenize source = .ok tokens) {run : List Token}
    (within : run <:+: tokens) {definition : ColumnDefinition}
    (texts : run.map Token.text = definition.specs) :
    DefaultFor run (ColumnOption.defaultValue.lookup definition.specs)
      ((ColumnOption.defaultValue.lookup definition.specs).value?.map defaultLexeme) := by
  cases found : ColumnOption.defaultValue.lookup definition.specs with
  | absent => exact .absent
  | dangling => exact .dangling
  | present raw =>
      obtain ⟨word, spelt, together⟩ := ColumnOption.lookup_present found
      rw [← texts] at together
      obtain ⟨keyword, token, stands, rfl, rfl⟩ := pair_of_texts together
      have inside : token ∈ run := stands.subset (by simp)
      have member : token ∈ tokens := within.subset inside
      exact .present stands spelt (writtenFor_of_value lexed member rfl)

end

/-! ## The text of an added column -/

/-- The text is cut into these lexemes and nothing else. -/
def Lexed (text : String) (lexemes : List Lexeme) : Prop :=
  ∃ tokens final, tokenize text = .ok (tokens ++ [Token.endAt final]) ∧
    tokens.map Token.lexeme = lexemes

theorem lexed_of_cutInto {text : String} {lexemes : List Lexeme}
    (cut : CutInto text.toList lexemes) : Lexed text lexemes :=
  cutInto_iff_tokenize.mp cut

/-- The end of the statement of an added column. -/
def optionsOf (value : Option Lexeme) (comment : Option String) : List Lexeme :=
  optionLexemes "DEFAULT" value ++ optionLexemes "COMMENT" (comment.map .literal)

/-- What is kept of a table, because it begins and ends with a back-quote, are quoted names. -/
def KeepsNames (table : String) : Prop :=
  ∀ part ∈ table.toList.splitOn '.', isWrappedIn backQuote part = true →
    ∃ name, part = backQuoted name

/-- The lexemes of a statement that adds a column, up to its type. -/
def frontLexemes (names : List String) (name : String) (type : List Lexeme) : List Lexeme :=
  [.word "ALTER", .word "TABLE"] ++ (names.map Lexeme.name).intersperse .dot ++
    ([.word "ADD", .word "COLUMN", .name name] ++ type)

/-- Behind its front, the statement of an added column is what is written for its default and its
comment. The default was found among the tokens whose texts the definition keeps. A front of
whole tokens keeps them, and with quoting on the front is one wherever the type is. -/
def KeepsDefault (engine : Engine) (table : String) (tokens : List Token)
    (definition : ColumnDefinition) (type text : String) : Prop :=
  ∃ run value comment front rear,
    run <:+: tokens ∧ run.map Token.text = definition.specs ∧
    DefaultFor run (ColumnOption.defaultValue.lookup definition.specs) value ∧
    text = front ++ rear ∧ Lexed rear (optionsOf value comment) ∧
    (∀ lexemes, WrittenAs front.toList lexemes → Lexed text (lexemes ++ optionsOf value comment)) ∧
    (engine.config.quoteIdentifiers = true → KeepsNames table →
      ∀ lexemes, WrittenAs type.toList lexemes →
        ∃ names, names ≠ [] ∧ tableText true table = referenceText names ∧
          Lexed text (frontLexemes names definition.name lexemes ++ optionsOf value comment))

/-- What is written in front of a default is made of whole tokens. -/
theorem written_front {engine : Engine} {table : String}
    (quoting : engine.config.quoteIdentifiers = true) (kept : KeepsNames table) (name : String)
    {type : String} {lexemes : List Lexeme} (typed : WrittenAs type.toList lexemes) :
    ∃ names, names ≠ [] ∧ tableText true table = referenceText names ∧
      WrittenAs (engine.written table (.addColumn { name, type })).toList
        (frontLexemes names name lexemes) := by
  obtain ⟨names, asMany, written⟩ := reference_iff.mp kept
  have named : names ≠ [] := by
    rw [← List.length_pos_iff, asMany, List.length_pos_iff]
    exact List.splitOn_ne_nil _ _
  have alterWord : WrittenAs "ALTER".toList [.word "ALTER"] := WrittenAs.word (by decide)
  have tableWord : WrittenAs "TABLE".toList [.word "TABLE"] := WrittenAs.word (by decide)
  have addWord : WrittenAs "ADD".toList [.word "ADD"] := WrittenAs.word (by decide)
  have columnWord : WrittenAs "COLUMN".toList [.word "COLUMN"] := WrittenAs.word (by decide)
  have reference := alterWord.space (tableWord.space (written_reference named))
  have column := addWord.space (columnWord.space ((columnText_written name).space typed))
  refine ⟨names, named, written, ?_⟩
  rw [Engine.written, quoting, SchemaChange.text, written]
  simpa [SchemaChange.action_addColumn, NewColumn.options, frontLexemes]
    using reference.space column

/-- The options of a column are written behind everything else. -/
theorem written_addColumn (engine : Engine) (table : String) (column : NewColumn) :
    engine.written table (.addColumn column) =
      engine.written table (.addColumn { name := column.name, type := column.type }) ++
        column.options := by
  have behind (quoting : Bool) : (SchemaChange.addColumn column).action quoting =
      (SchemaChange.addColumn { name := column.name, type := column.type }).action quoting ++
        column.options :=
    congrArg (· ++ column.options) String.append_empty.symm
  rw [Engine.written, Engine.written, SchemaChange.text, SchemaChange.text, behind]
  exact String.append_assoc.symm

theorem keepsDefault_of_drawnFrom (engine : Engine) (table : String) {source : String}
    {tokens : List Token} (lexed : tokenize source = .ok tokens) {definition : ColumnDefinition}
    (drawn : definition.DrawnFrom tokens) (type : String) :
    KeepsDefault engine table tokens definition type
      (engine.written table (.addColumn (newColumn definition type))) := by
  obtain ⟨run, within, texts⟩ := drawn
  have behind : ∀ {front : List Char} {lexemes : List Lexeme}, WrittenAs front lexemes →
      CutInto (front ++ (newColumn definition type).options.toList) (lexemes ++ optionsOf
        ((ColumnOption.defaultValue.lookup definition.specs).value?.map defaultLexeme)
        (newColumn definition type).shownComment) := by
    intro front lexemes whole
    exact ((newColumn definition type).options_written whole).cutInto
  have split := written_addColumn engine table (newColumn definition type)
  refine ⟨run, _, (newColumn definition type).shownComment, _, _, within, texts,
    defaultFor_of_texts lexed within texts, split, lexed_of_cutInto ?rear, ?front, ?whole⟩
  case rear =>
    have nothing : WrittenAs [] [] := fun _ _ _ tail => tail
    exact behind nothing
  case front =>
    intro lexemes front
    refine lexed_of_cutInto ?_
    rw [split, String.toList_append]
    exact behind front
  case whole =>
    intro quoting kept lexemes typed
    obtain ⟨names, named, written, front⟩ := written_front quoting kept definition.name typed
    refine ⟨names, named, written, lexed_of_cutInto ?_⟩
    rw [split, String.toList_append]
    exact behind front

/-- What a clause gives, where an added column keeps its default. What the shipped resolver answers
is made of whole tokens. -/
def AccountedDefault (engine : Engine) (connector : Connector) (table : String)
    (tokens : List Token) (clause : Clause) (outcome : Outcome) : Prop :=
  Accounted engine connector table clause outcome ∧
    ∀ first more, clause.operation = .add → clause.definitions = first :: more →
      ∃ type text, targetType engine.resolver connector first = .ok type ∧
        (engine.resolver = TypeResolver.doris →
          ∃ column : ColumnType, type = column.text ∧ WrittenAs type.toList column.lexemes) ∧
        outcome.statements = [text] ∧ KeepsDefault engine table tokens first type text

theorem Accounted.keepsDefault {engine : Engine} {connector : Connector} {table source : String}
    {tokens : List Token} (lexed : tokenize source = .ok tokens) {clause : Clause}
    (drawn : clause.DrawnFrom tokens) {outcome : Outcome}
    (accounted : Accounted engine connector table clause outcome) :
    AccountedDefault engine connector table tokens clause outcome := by
  refine ⟨accounted, fun first more adds defined => ?_⟩
  cases accounted with
  | added _ defined' typed =>
      rw [defined] at defined'
      cases defined'
      have member : first ∈ clause.definitions := by simp [defined]
      refine ⟨_, _, typed, fun shipped => ?_, rfl,
        keepsDefault_of_drawnFrom engine table lexed (drawn first member) _⟩
      obtain ⟨column, rfl⟩ := doris_type (shipped ▸ typed)
      exact ⟨column, rfl, column.written⟩
  | dropped drops => cases adds.symm.trans drops
  | renamed renames => cases adds.symm.trans renames
  | changed _ changes => cases adds.symm.trans changes
  | unchanged _ changes => cases adds.symm.trans changes
  | unsupported other => simp [adds] at other

/-- Every added column of a statement that is relayed keeps its default. -/
theorem relay_default {resolver : TypeResolver} {config : Config} {connector : Connector}
    {source table : String} {statement : AlterTable} {outcome : Outcome}
    (read : Statement.parse source = .ok (.alterTable statement))
    (relayed : Engine.relay { resolver, config } connector source table = .ok outcome) :
    ∃ tokens outcomes, tokenize source = .ok tokens ∧
      List.Forall₂ (AccountedDefault { resolver, config } connector table tokens)
        statement.clauses outcomes ∧
      outcome = Outcome.joined outcomes := by
  obtain ⟨tokens, lexed, drawn⟩ := drawn_of_parse read
  obtain ⟨outcomes, accounted, joined⟩ := (relay_eq_ok_iff read).mp relayed
  have both := (List.forall₂_and_left _ _).mpr ⟨drawn, accounted⟩
  refine ⟨tokens, outcomes, lexed, both.imp ?_, joined⟩
  rintro clause outcome ⟨drawn, accounted⟩
  exact accounted.keepsDefault lexed drawn

/-- A literal with the other quote in it, and a word that Doris reads bare. -/
def defaultsSource : String := "ALTER TABLE t ADD a CHAR DEFAULT \"it's\", ADD b INT DEFAULT NULL"

def defaultsClauses : List Clause :=
  match Statement.parse defaultsSource with
  | .ok (.alterTable statement) => statement.clauses
  | _ => []

def defaultsOutcome : Outcome where
  statements :=
    ["ALTER TABLE `t` ADD COLUMN `a` CHAR(3) DEFAULT 'it\\'s'",
      "ALTER TABLE `t` ADD COLUMN `b` INT DEFAULT NULL"]
  notices := []

theorem relay_default_several :
    Statement.parse defaultsSource = .ok (.alterTable ⟨⟨["t"]⟩, false, defaultsClauses⟩) ∧
      Engine.relay {} .mysql defaultsSource "t" = .ok defaultsOutcome ∧
      ∃ tokens outcomes, tokenize defaultsSource = .ok tokens ∧
        List.Forall₂ (AccountedDefault {} .mysql "t" tokens) defaultsClauses outcomes ∧
        defaultsOutcome = Outcome.joined outcomes := by
  have read : Statement.parse defaultsSource =
      .ok (.alterTable ⟨⟨["t"]⟩, false, defaultsClauses⟩) := by
    decide +kernel
  have relayed : Engine.relay {} .mysql defaultsSource "t" = .ok defaultsOutcome := by
    decide +kernel
  exact ⟨read, relayed, relay_default read relayed⟩

/-- A literal that spells a value that Doris reads bare. -/
def nullSource : String := "ALTER TABLE t ADD COLUMN c VARCHAR(10) DEFAULT 'NULL'"

def nullText : String := "ALTER TABLE `users` ADD COLUMN `c` VARCHAR(30) DEFAULT NULL"

def nullDefinition : ColumnDefinition := ⟨"c", ⟨"VARCHAR", ["10"], none⟩, ["DEFAULT", "'NULL'"]⟩

def tokensOf (text : String) : List Token := (tokenize text).toOption.getD []

def keptSource : String := "ALTER TABLE t ADD a INT DEFAULT 'x'"

/-- The same with a name that opens a comment where it is not quoted. -/
def dashedSource : String := "ALTER TABLE t ADD `a --` INT DEFAULT 'x'"

/-- The default is a string literal in the source, and no literal at all in what is produced. A
default is lost as well behind a table that only looks quoted, behind names without quotes, and
behind a type that is none. -/
theorem null_literal_written_bare :
    (Statement.parse nullSource = .ok (.alterTable ⟨⟨["t"]⟩, false,
        [{ operation := .add, column := some "c", definitions := [nullDefinition] }]⟩) ∧
      ColumnOption.defaultValue.lookup nullDefinition.specs = .present "'NULL'" ∧
      tokenize nullSource = .ok (tokensOf nullSource) ∧
      (∃ token ∈ tokensOf nullSource, token.text = "'NULL'" ∧ token.kind = .string "NULL") ∧
      Engine.relay {} .mysql nullSource "users" = .ok ⟨[nullText], []⟩ ∧
      tokenize nullText = .ok (tokensOf nullText) ∧
      ((tokensOf nullText).drop 10).map (fun token => (token.kind, token.text)) =
        [(.word, "DEFAULT"), (.word, "NULL"), (.endOfInput, "")] ∧
      ∀ token ∈ tokensOf nullText, token.kind ≠ .string "NULL") ∧
    (Engine.relay {} .mysql keptSource "`a`b`" =
        .ok ⟨["ALTER TABLE `a`b` ADD COLUMN `a` INT DEFAULT 'x'"], []⟩ ∧
      (tokenize "ALTER TABLE `a`b` ADD COLUMN `a` INT DEFAULT 'x'").toOption = none) ∧
    (Engine.relay { config := { quoteIdentifiers := false } } .mysql dashedSource "t" =
        .ok ⟨["ALTER TABLE t ADD COLUMN a -- INT DEFAULT 'x'"], []⟩ ∧
      (tokensOf "ALTER TABLE t ADD COLUMN a -- INT DEFAULT 'x'").map Token.text =
        ["ALTER", "TABLE", "t", "ADD", "COLUMN", "a", ""]) ∧
    Engine.relay { resolver := fun _ _ _ _ => .ok "INT --" } .mysql keptSource "t" =
        .ok ⟨["ALTER TABLE `t` ADD COLUMN `a` INT -- DEFAULT 'x'"], []⟩ ∧
      (tokensOf "ALTER TABLE `t` ADD COLUMN `a` INT -- DEFAULT 'x'").map Token.text =
        ["ALTER", "TABLE", "`t`", "ADD", "COLUMN", "`a`", "INT", ""] := by
  decide +kernel

end AlterRelay.Relay
