/-
# AlterRelay.Proofs.Sql.RoundTrip — definitions are read back as they are displayed

A definition that was read from a source, displayed and read again is the same
definition (`parse_displayed_definition`). The text that is read need not be the one
that was written: modifiers have moved in front of the arguments, `CHARSET` is spelt
out, and arguments and tokens are spaced anew.

So the proof goes by the shape of the displayed text. What the first reading took has
that shape (`displayed_of_read`): the tokens behind the type are balanced and hold no
semicolon (`runFrom_taken`), and begin with nothing that the type could have taken
(`dataType_ends`).
-/
import AlterRelay.Proofs.Sql.Displayed
import AlterRelay.Proofs.Sql.Grammar
import AlterRelay.Proofs.Sql.ReadDefinition
import AlterRelay.Proofs.Sql.Respacing

namespace AlterRelay.Sql

set_option autoImplicit false

/-! ## Lexemes by their kind -/

/-- A word is spelt as one, and a parenthesis is one character. -/
theorem raw_of_lexeme {c : Char} {rest behind : List Char} {cut : Lexeme}
    (found : lexeme c rest = .ok (cut, behind)) :
    (cut.kind = .word → isWordText cut.raw = true) ∧ (cut.kind = .openParen → cut.raw = ['(']) := by
  cases cutOff_of_lexeme found with
  | word start =>
      refine ⟨fun _ => ?_, TokenKind.noConfusion⟩
      simp [isWordText, start]
  | quoted meaning closed =>
      rcases kind_of_quoteMeaning? meaning with rfl | rfl | rfl <;>
        exact ⟨TokenKind.noConfusion, TokenKind.noConfusion⟩
  | mark mark =>
      unfold punctuation? at mark
      split at mark <;> cases mark <;> simp
  | _ => exact ⟨TokenKind.noConfusion, TokenKind.noConfusion⟩

theorem Lexeme.IsWhole.raw {lexeme : Lexeme} (whole : lexeme.IsWhole) :
    (lexeme.kind = .word → isWordText lexeme.raw = true) ∧
      (lexeme.kind = .openParen → lexeme.raw = ['(']) :=
  CutInto.forall_lexemes whole raw_of_lexeme lexeme List.mem_cons_self

theorem isWordText_of_isWhole {text : String} (whole : (Lexeme.word text).IsWhole) :
    isWordText text.toList = true := whole.raw.1 rfl

/-! ## Tokens of a source -/

/-- A token without a place, that its own text is cut into. -/
def Token.Stands (token : Token) : Prop := token.lexeme.IsWhole ∧ token.lexeme.token = token

theorem Lexeme.IsWhole.stands {lexeme : Lexeme} (whole : lexeme.IsWhole) :
    lexeme.token.Stands := by
  rw [Token.Stands, lexeme.lexeme_token]
  exact ⟨whole, rfl⟩

theorem map_lexeme_of_stands {run : List Token} (stand : ∀ token ∈ run, token.Stands) :
    AllWhole (run.map Token.lexeme) ∧ (run.map Token.lexeme).map Lexeme.token = run := by
  refine ⟨List.forall_mem_map.mpr fun token member => (stand token member).1, ?_⟩
  rw [List.map_map]
  exact (List.map_congr_left fun token member => (stand token member).2).trans (List.map_id run)

theorem Token.text_lexeme (token : Token) : token.lexeme.text = token.text :=
  String.ofList_toList

theorem spaced_map_lexeme (run : List Token) : spaced (run.map Token.lexeme) = joinedText run := by
  simp [spaced, joinedText, Token.text_lexeme, Function.comp_def]

theorem Token.Stands.exists_word {spells : Token → Prop} {token : Token} (stands : token.Stands)
    (isWord : token.kind = .word) (spelt : spells token) :
    ∃ word : Word spells, word.lexeme = token.lexeme := by
  have lexeme : Lexeme.word token.text = token.lexeme := by
    rw [Token.lexeme, isWord, Lexeme.word]
  refine ⟨⟨token.text, stands.1.raw.1 isWord, ?_⟩, lexeme⟩
  rwa [lexeme, stands.2]

theorem exists_words {spells : Token → Prop} {run : List Token}
    (stand : ∀ token ∈ run, token.Stands)
    (spelt : ∀ token ∈ run, token.kind = .word ∧ spells token) :
    ∃ words : List (Word spells), words.map Word.lexeme = run.map Token.lexeme := by
  induction run with
  | nil => exact ⟨[], rfl⟩
  | cons token run ih =>
      obtain ⟨stands, stand⟩ := List.forall_mem_cons.mp stand
      obtain ⟨⟨isWord, spells⟩, spelt⟩ := List.forall_mem_cons.mp spelt
      obtain ⟨word, first⟩ := stands.exists_word isWord spells
      obtain ⟨words, others⟩ := ih stand spelt
      exact ⟨word :: words, by rw [List.map_cons, List.map_cons, first, others]⟩

/-! ## Shapes that were read -/

/-- The arguments that were read, without the tokens around them. -/
theorem exists_arguments {run : List Token} {texts : List String} (spelt : ArgumentsRun run texts)
    (stand : ∀ token ∈ run, token.Stands) :
    ∃ arguments : List (List Lexeme), arguments.map spaced = texts ∧
      (∀ argument ∈ arguments, AllWhole argument) ∧
        ∀ argument ∈ arguments, ∀ lexeme ∈ argument,
          lexeme.kind ∉ [.openParen, .closeParen, .comma] := by
  cases spelt with
  | absent => exact ⟨[], rfl, List.forall_mem_nil _, List.forall_mem_nil _⟩
  | @written opening closing inside opens closes plain =>
      have within : ∀ stretch ∈ argumentRuns inside, ∀ token ∈ stretch, token ∈ inside :=
        fun stretch member token among => Reader.subset_of_mem_argumentRuns member among
      refine ⟨(argumentRuns inside).map (List.map Token.lexeme), ?_, ?_, ?_⟩
      · simp [Function.comp_def, spaced_map_lexeme]
      · refine List.forall_mem_map.mpr fun stretch member => ?_
        refine (map_lexeme_of_stands fun token among => stand token ?_).1
        simp [within stretch member token among]
      · refine List.forall_mem_map.mpr fun stretch member => List.forall_mem_map.mpr ?_
        intro token among
        have noComma := Text.not_separator_of_mem_splitOnP
          (Reader.mem_splitOnP_of_mem_argumentRuns member) token among
        have inner := plain token (within stretch member token among)
        show token.kind ∉ [.openParen, .closeParen, .comma]
        simp_all [Token.isComma]

/-- A type that was read has the shape of a displayed one, if its character set is a word and
its last argument is not empty. -/
theorem displayedType_of_run {run rest : List Token} {type : DataType}
    (spelt : TypeRun run type rest)
    (stand : ∀ token ∈ run, token.Stands)
    (coded : ∀ name ∈ type.characterSet, (Lexeme.word name).IsWhole)
    (last : type.arguments.getLast? ≠ some "") : ∃ shape : DisplayedType, shape.type = type := by
  cases spelt with
  | @mk token before parenthesized behind set rest texts characterSet isWord modifiers inside
      coding =>
      have within : ∀ other ∈ before ++ behind, other.Stands := by
        intro other member
        refine stand other ?_
        simp only [List.mem_cons, List.mem_append] at member ⊢
        tauto
      have modifiers' : ∀ other ∈ before ++ behind,
          other.kind = .word ∧ Reader.isTypeModifier other = true := by
        intro other member
        obtain ⟨keyword, spelt, -⟩ := (Option.any_eq_true _ _).mp (modifiers other member)
        exact ⟨Token.kind_of_keyword? spelt, modifiers other member⟩
      obtain ⟨word, wordLexeme⟩ : ∃ word : AnyWord, word.lexeme = token.lexeme :=
        (stand token List.mem_cons_self).exists_word isWord trivial
      obtain ⟨words, wordLexemes⟩ := exists_words within modifiers'
      obtain ⟨arguments, rfl, whole, plain⟩ := exists_arguments inside fun other member =>
        stand other (by simp [member])
      obtain ⟨name, rfl⟩ : ∃ name : Option AnyWord, name.map Word.text = characterSet := by
        cases characterSet with
        | none => exact ⟨none, rfl⟩
        | some name => exact ⟨some ⟨name, isWordText_of_isWhole (coded name rfl), trivial⟩, rfl⟩
      -- An argument without lexemes would be displayed as an empty text.
      have last' : arguments.getLast? ≠ some [] := by
        intro empty
        refine last ?_
        rw [List.getLast?_map, empty]
        rfl
      refine ⟨⟨word, words, arguments, name, whole, plain, last'⟩, ?_⟩
      have typeName : spaced (word.lexeme :: words.map Word.lexeme) =
          joinedText (token :: (before ++ behind)) := by
        rw [wordLexeme, wordLexemes, ← List.map_cons, spaced_map_lexeme]
      rw [← typeName]
      rfl

/-- A definition that was read has the shape of a displayed one. -/
theorem displayed_of_read {inParens : Bool} {tokens rest : List Token}
    {definition : ColumnDefinition}
    (taken : Reader.definition inParens tokens = .ok (definition, rest))
    (stand : ∀ token ∈ tokens, token.kind ≠ .endOfInput → token.Stands)
    (named : (Lexeme.word definition.name).IsWhole)
    (coded : ∀ name ∈ definition.type.characterSet, (Lexeme.word name).IsWhole)
    (last : definition.type.arguments.getLast? ≠ some "")
    (closed : ¬(definition.type.arguments = [] ∧ definition.type.characterSet = none ∧
      definition.specs.head? = some "(")) :
    ∃ shape : DisplayedDefinition, shape.definition = definition := by
  obtain ⟨front, split, balanced⟩ := Reader.definition_enclosed inParens taken
  obtain ⟨name, behind, first, others⟩ := Reader.bind_eq_ok.mp taken
  obtain ⟨type, behind', typed, others⟩ := Reader.bind_eq_ok.mp others
  obtain ⟨texts, final, ran, others⟩ := Reader.bind_eq_ok.mp others
  obtain ⟨rfl, rfl⟩ := Reader.pure_eq_ok.mp others
  obtain ⟨specs, rfl, rfl, closes, noSemicolon⟩ := Reader.runFrom_taken ran
  obtain ⟨run, rfl, spelt⟩ := Reader.dataType_taken typed
  obtain ⟨lead, rfl⟩ := Reader.identifier_shrinks _ first
  -- What was taken is the name, the type and the rest of the definition, and no end.
  have joined : lead ++ (run ++ specs) ++ final = front ++ final := by
    rw [← split]
    simp
  have whole := List.append_cancel_right joined
  have stands : ∀ token ∈ run ++ specs, token.Stands := by
    intro token member
    have inside : token ∈ front := whole ▸ List.mem_append_right lead member
    refine stand token ?_ fun end_ => ?_
    · rw [split]
      exact List.mem_append_left _ inside
    · exact not_end_of_depthBehind? balanced (end_ ▸ List.mem_map_of_mem inside)
  obtain ⟨standsType, standSpecs⟩ := List.forall_mem_append.mp stands
  obtain ⟨shape, rfl⟩ := displayedType_of_run spelt standsType coded last
  obtain ⟨wholeSpecs, tokens⟩ := map_lexeme_of_stands standSpecs
  have ends : shape.characterSet = none →
      Reader.EndsType ((specs.map Token.lexeme).map Lexeme.token) := by
    intro bare
    rw [tokens]
    exact (spelt.ends (by simp [DisplayedType.type, bare])).of_append
  have notOpen : shape.characterSet = none → shape.arguments = [] →
      Headed (¬·.kind = .openParen) ((specs.map Token.lexeme).map Lexeme.token) := by
    intro bare empty token head opens
    rw [tokens] at head
    refine closed ⟨by simp [DisplayedType.type, empty], by simp [DisplayedType.type, bare], ?_⟩
    have raw := (standSpecs token (List.mem_of_mem_head? head)).1.raw.2 opens
    have text : token.text = "(" := by
      rw [← token.text_lexeme, Lexeme.text, raw]
    rw [List.head?_map, head, ← text]
    rfl
  have kinds : (specs.map Token.lexeme).map Lexeme.kind = specs.map Token.kind := by
    rw [List.map_map]
    rfl
  refine ⟨⟨⟨name, isWordText_of_isWhole named, trivial⟩, shape, specs.map Token.lexeme, wholeSpecs,
    kinds ▸ closes, List.forall_mem_map.mpr noSemicolon, ends, notOpen⟩, ?_⟩
  have texts : (specs.map Token.lexeme).map Lexeme.text = specs.map Token.text := by
    simp [Token.text_lexeme, Function.comp_def]
  rw [DisplayedDefinition.definition, texts]

/-- Every definition of a statement that was parsed is read back from its displayed text, as the
one definition of a statement that adds it. Its name and its character set have to be words: they
are displayed without quotes. The last argument has to be there to be displayed, and a
parenthesis behind a bare type would be read as its arguments. -/
theorem parse_displayed_definition {source : String} {statement : AlterTable}
    (read : Statement.parse source = .ok (.alterTable statement)) {clause : Clause}
    (listed : clause ∈ statement.clauses) {definition : ColumnDefinition}
    (member : definition ∈ clause.definitions) (named : (Lexeme.word definition.name).IsWhole)
    (coded : ∀ name ∈ definition.type.characterSet, (Lexeme.word name).IsWhole)
    (last : definition.type.arguments.getLast? ≠ some "")
    (closed : ¬(definition.type.arguments = [] ∧ definition.type.characterSet = none ∧
      definition.specs.head? = some "(")) :
    Statement.parse ("ALTER TABLE t ADD COLUMN " ++ definition.text) =
      .ok (.alterTable ⟨⟨["t"]⟩, false,
        [{ operation := .add, column := definition.name, definitions := [definition] }]⟩) := by
  obtain ⟨tokens, _, _, lexed, -, -⟩ := alterTable_of_parse read
  obtain ⟨lexemes, cut, -⟩ := cutInto_of_tokenize lexed
  have again := parse_of_cutInto cut
  rw [read] at again
  have spelt := toOption_eq_some.mp again.symm
  obtain ⟨inParens, front, rest, within, taken⟩ := readFrom_of_ofTokens spelt listed member
  have stand : ∀ token ∈ front, token.kind ≠ .endOfInput → token.Stands := by
    intro token member proper
    rcases List.mem_append.mp (within.subset member) with inside | final
    · obtain ⟨lexeme, among, rfl⟩ := List.mem_map.mp inside
      exact (isWhole_of_cutInto cut lexeme among).stands
    · rw [List.mem_singleton.mp final] at proper
      exact absurd rfl proper
  obtain ⟨shape, rfl⟩ := displayed_of_read taken stand named coded last closed
  exact shape.parse_addition

/-- A definition in a list, with a modifier behind its arguments, the first of them empty, and
with quotes that its displayed text does not need. -/
def scatteredSource : String :=
  "ALTER TABLE shop.items ADD (id INT, `price` DECIMAL UNSIGNED (,10, 2 3) ZEROFILL " ++
    "CHARSET \"utf8\" DEFAULT ((1), 'a;b')), DROP x"

def scatteredDefinition : ColumnDefinition where
  name := "price"
  type := ⟨"DECIMAL UNSIGNED ZEROFILL", ["", "10", "2 3"], some "utf8"⟩
  specs := ["DEFAULT", "(", "(", "1", ")", ",", "'a;b'", ")"]

def scatteredClauses : List Clause :=
  [{ operation := .add, column := "id",
     definitions := [⟨"id", ⟨"INT", [], none⟩, []⟩, scatteredDefinition] },
    { operation := .drop, column := "x" }]

def gatheredText : String :=
  "price DECIMAL UNSIGNED ZEROFILL(, 10, 2 3) CHARACTER SET utf8 DEFAULT ( ( 1 ) , 'a;b' )"

theorem parse_displayed_definition_scattered :
    Statement.parse scatteredSource =
        .ok (.alterTable ⟨⟨["shop", "items"]⟩, false, scatteredClauses⟩) ∧
      scatteredDefinition.text = gatheredText ∧
      Statement.parse ("ALTER TABLE t ADD COLUMN " ++ gatheredText) =
        .ok (.alterTable ⟨⟨["t"]⟩, false,
          [{ operation := .add, column := "price", definitions := [scatteredDefinition] }]⟩) := by
  have read : Statement.parse scatteredSource =
      .ok (.alterTable ⟨⟨["shop", "items"]⟩, false, scatteredClauses⟩) := by decide +kernel
  have text : scatteredDefinition.text = gatheredText := by decide +kernel
  have named : (Lexeme.word "price").IsWhole :=
    Word.isWhole (⟨"price", by decide, trivial⟩ : AnyWord)
  have coded : (Lexeme.word "utf8").IsWhole :=
    Word.isWhole (⟨"utf8", by decide, trivial⟩ : AnyWord)
  have back := parse_displayed_definition read List.mem_cons_self
    (List.mem_cons_of_mem _ List.mem_cons_self : scatteredDefinition ∈ _) named
    (by simpa [scatteredDefinition] using coded) (by decide) (by decide)
  exact ⟨read, text, text ▸ back⟩

end AlterRelay.Sql
