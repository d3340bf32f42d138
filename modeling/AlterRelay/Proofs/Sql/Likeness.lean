/-
# AlterRelay.Proofs.Sql.Likeness — tokens that are alike are read alike

Two lists of tokens may agree in their kinds and differ otherwise: in the places
of the tokens, or in the case of their letters. A `Likeness` says how their texts
and their places are related. It has to know nothing of the readers, only that
related texts stay related when they are joined and that they spell the same
keyword (`Likeness.upper`).

Readers then keep it: given tokens that are alike, both readings succeed with
values that are alike, and alike tokens are left over, or both fail at tokens that
are alike (`ReadsAlike`). This is proved of one reader after the other, in the
order in which they are built, and ends with whole statements
(`ofTokens_alike`).
-/
import AlterRelay.Proofs.Sql.Reading
import Mathlib.Data.Option.Basic
import Mathlib.Data.List.Forall2

namespace AlterRelay.Sql

open AlterRelay.Text

set_option autoImplicit false

/-! ## Likeness -/

/-- How the tokens of two readings are related. -/
structure Likeness where
  Text : String → String → Prop
  Place : Span → Span → Prop
  same : ∀ text, Text text text
  joined : ∀ {a b c d}, Text a b → Text c d → Text (a ++ c) (b ++ d)
  upper : ∀ {a b}, Text a b → a.toUpper = b.toUpper

namespace Likeness

variable (like : Likeness)

/-- Tokens of one kind, with texts and places that are alike. -/
structure Tokens (a b : Token) : Prop where
  kind : a.kind = b.kind
  text : like.Text a.text b.text
  place : like.Place a.span b.span

abbrev Texts : List String → List String → Prop := List.Forall₂ like.Text

/-- Both names are missing, or both are there and related. -/
abbrev Named : Option String → Option String → Prop := Option.Rel like.Text

/-- Types that are related part by part. -/
structure Types (a b : DataType) : Prop where
  name : like.Text a.name b.name
  arguments : like.Texts a.arguments b.arguments
  characterSet : like.Named a.characterSet b.characterSet

/-- Definitions that are related part by part. Their further tokens are kept as texts, and are
related as such. -/
structure Definitions (a b : ColumnDefinition) : Prop where
  name : like.Text a.name b.name
  type : like.Types a.type b.type
  specs : like.Texts a.specs b.specs

/-- Clauses of one operation whose names and definitions are related. -/
structure Clauses (a b : Clause) : Prop where
  operation : a.operation = b.operation
  column : like.Named a.column b.column
  oldColumn : like.Named a.oldColumn b.oldColumn
  definitions : List.Forall₂ like.Definitions a.definitions b.definitions

structure Alterations (a b : AlterTable) : Prop where
  table : like.Texts a.table.parts b.table.parts
  ifExists : a.ifExists = b.ifExists
  clauses : List.Forall₂ like.Clauses a.clauses b.clauses

/-- Both statements alter a table, or they are another statement of one keyword. -/
inductive Statements : Statement → Statement → Prop where
  | alterTable {a b : AlterTable} (alike : like.Alterations a b) :
      Statements (.alterTable a) (.alterTable b)
  | other (keyword : String) : Statements (.other keyword) (.other keyword)

/-- The same expectation was disappointed, by tokens that are alike. -/
inductive Errors : ParseError → ParseError → Prop where
  | unexpectedToken {a b : Token} (alike : like.Tokens a b) (expected : Expectation) :
      Errors (.unexpectedToken a.text expected a.span.line a.span.column)
        (.unexpectedToken b.text expected b.span.line b.span.column)
  | unexpectedEnd (expected : Expectation) : Errors (.unexpectedEnd expected)
      (.unexpectedEnd expected)
  | empty : Errors .empty .empty

/-- Two outcomes of reading: values that are alike, in front of alike tokens, or errors that
are alike. -/
inductive Results {α : Type} (value : α → α → Prop) :
    Except ParseError (α × List Token) → Except ParseError (α × List Token) → Prop where
  | ok {a b : α} {rest rest' : List Token} (values : value a b)
      (behind : List.Forall₂ like.Tokens rest rest') :
      Results value (.ok (a, rest)) (.ok (b, rest'))
  | error {a b : ParseError} (alike : like.Errors a b) : Results value (.error a) (.error b)

/-- What two lists of tokens spell: statements that are alike, or errors that are. -/
inductive Spelt : Except ParseError Statement → Except ParseError Statement → Prop where
  | ok {a b : Statement} (alike : like.Statements a b) : Spelt (.ok a) (.ok b)
  | error {a b : ParseError} (alike : like.Errors a b) : Spelt (.error a) (.error b)

/-- Readers that read tokens alike, if the tokens are. -/
def ReadsAlike {α : Type} (value : α → α → Prop) (reader reader' : Reader α) : Prop :=
  ∀ ⦃tokens tokens' : List Token⦄, List.Forall₂ like.Tokens tokens tokens' →
    like.Results value (reader tokens) (reader' tokens')

variable {like}

namespace Tokens

variable {a b : Token}

/-- Related texts spell the same keyword, so every decision by a keyword falls the same way. -/
theorem keyword?_eq (alike : like.Tokens a b) : a.keyword? = b.keyword? := by
  unfold Token.keyword? Keyword.ofWord?
  rw [alike.kind, like.upper alike.text]

theorem isKeyword_eq (alike : like.Tokens a b) (keyword : Keyword) :
    a.isKeyword keyword = b.isKeyword keyword := by
  rw [Token.isKeyword, Token.isKeyword, alike.keyword?_eq]

theorem isEnd_eq (alike : like.Tokens a b) : a.isEnd = b.isEnd := by
  rw [Token.isEnd, Token.isEnd, alike.kind]

theorem isTypeModifier_eq (alike : like.Tokens a b) :
    Reader.isTypeModifier a = Reader.isTypeModifier b := by
  rw [Reader.isTypeModifier, Reader.isTypeModifier, alike.keyword?_eq]

/-- `CASCADE` and `RESTRICT` are no keywords, but their letters are related too. -/
theorem isDropBehaviour_eq (alike : like.Tokens a b) :
    Reader.isDropBehaviour a = Reader.isDropBehaviour b := by
  simp only [Reader.isDropBehaviour, sameIgnoringCase, alike.kind, like.upper alike.text]

/-- A word is related by its text, a quoted name by the value in its kind. -/
theorem identifier? (alike : like.Tokens a b) : like.Named a.identifier? b.identifier? := by
  unfold Token.identifier?
  rw [alike.kind]
  split
  · exact .some alike.text
  · exact .some (like.same _)
  · exact .some (like.same _)
  · exact .none

end Tokens

/-- Texts stay related where lists of them are joined. -/
theorem Texts.append {texts texts' more more' : List String} (first : like.Texts texts texts')
    (second : like.Texts more more') : like.Texts (texts ++ more) (texts' ++ more') :=
  List.rel_append first second

/-- Texts that are alike are alike when they are joined. -/
theorem Texts.intercalate (separator : String) {texts texts' : List String}
    (alike : like.Texts texts texts') :
    like.Text (separator.intercalate texts) (separator.intercalate texts') := by
  induction alike with
  | nil => exact like.same _
  | cons first others ih =>
      cases others with
      | nil => simpa using first
      | cons second others =>
          rw [String.intercalate_cons_cons, String.intercalate_cons_cons]
          exact like.joined (like.joined first (like.same separator)) ih

/-- What is told of the token in front is related, and so is that there is none. -/
theorem Errors.expecting (expected : Expectation) {tokens tokens' : List Token}
    (alike : List.Forall₂ like.Tokens tokens tokens') :
    like.Errors (.expecting expected tokens) (.expecting expected tokens') := by
  cases alike with
  | nil => exact .unexpectedEnd expected
  | @cons token token' _ _ first others =>
      by_cases ends : token.isEnd = true
      · rw [ParseError.expecting, ParseError.expecting, if_pos ends, if_pos (first.isEnd_eq ▸ ends)]
        exact .unexpectedEnd expected
      · rw [ParseError.expecting, ParseError.expecting, if_neg ends, if_neg (first.isEnd_eq ▸ ends)]
        exact .unexpectedToken first expected

/-! ## Sequences -/

section

variable {α β : Type} {value : α → α → Prop} {result : β → β → Prop}

/-- Two readings go on alike from values that are alike. -/
theorem Results.bind {reader reader' : Reader α} {next next' : α → Reader β}
    {tokens tokens' : List Token} (first : like.Results value (reader tokens) (reader' tokens'))
    (further : ∀ {a b rest rest'}, reader tokens = .ok (a, rest) → value a b →
      List.Forall₂ like.Tokens rest rest' → like.Results result (next a rest) (next' b rest')) :
    like.Results result ((reader >>= next) tokens) ((reader' >>= next') tokens') := by
  cases read : reader tokens with
  | error error =>
      cases read' : reader' tokens' with
      | ok _ =>
          rw [read, read'] at first
          cases first
      | error error' =>
          rw [read, read'] at first
          rw [Reader.bind_of_error read, Reader.bind_of_error read']
          cases first with
          | error alike => exact .error alike
  | ok taken =>
      cases read' : reader' tokens' with
      | error _ =>
          rw [read, read'] at first
          cases first
      | ok taken' =>
          rw [read, read'] at first
          rw [Reader.bind_of_ok read, Reader.bind_of_ok read']
          cases first with
          | ok values behind => exact further read values behind

/-- A sequence is alike, if it is from any two related values on. -/
theorem ReadsAlike.bind {reader reader' : Reader α} {next next' : α → Reader β}
    (first : like.ReadsAlike value reader reader')
    (further : ∀ {a b}, value a b → like.ReadsAlike result (next a) (next' b)) :
    like.ReadsAlike result (reader >>= next) (reader' >>= next') :=
  fun _ _ alike => (first alike).bind fun _ values behind => further values behind

theorem ReadsAlike.pure {a b : α} (values : value a b) :
    like.ReadsAlike value (Pure.pure a) (Pure.pure b) :=
  fun _ _ alike => .ok values alike

theorem ReadsAlike.ite {condition : Prop} [Decidable condition] {yes yes' no no' : Reader α}
    (first : like.ReadsAlike value yes yes') (second : like.ReadsAlike value no no') :
    like.ReadsAlike value (if condition then yes else no) (if condition then yes' else no') := by
  split
  · exact first
  · exact second

theorem ReadsAlike.fail (expected : Expectation) :
    like.ReadsAlike value (Reader.fail expected) (Reader.fail expected) :=
  fun _ _ alike => .error (Errors.expecting expected alike)

end

/-! ## Tokens in front -/

section

variable {tokens tokens' : List Token}

theorem peekKeyword_alike : like.ReadsAlike Eq Reader.peekKeyword Reader.peekKeyword := by
  intro tokens tokens' alike
  refine .ok ?_ alike
  cases alike with
  | nil => rfl
  | cons first others => exact first.keyword?_eq

/-- Behind alike tokens stand alike tokens. -/
theorem tail_alike (alike : List.Forall₂ like.Tokens tokens tokens') :
    List.Forall₂ like.Tokens tokens.tail tokens'.tail := by
  cases alike with
  | nil => exact .nil
  | cons first others => exact others

theorem beginsWith_eq (kind : TokenKind) (alike : List.Forall₂ like.Tokens tokens tokens') :
    Reader.beginsWith kind tokens = Reader.beginsWith kind tokens' := by
  cases alike with
  | nil => rfl
  | cons first others => rw [Reader.beginsWith, Reader.beginsWith, first.kind]

/-- A token is taken by its kind, so it is taken on both sides or on none. -/
theorem accept_alike (kind : TokenKind) :
    like.ReadsAlike Eq (Reader.accept kind) (Reader.accept kind) := by
  intro tokens tokens' alike
  unfold Reader.accept
  rw [beginsWith_eq kind alike]
  split
  · exact .ok rfl (tail_alike alike)
  · exact .ok rfl alike

/-- Keywords are taken on both sides or on none, and what is behind them is alike. -/
theorem afterKeywords?_alike (keywords : List Keyword)
    (alike : List.Forall₂ like.Tokens tokens tokens') :
    Option.Rel (List.Forall₂ like.Tokens) (Reader.afterKeywords? keywords tokens)
      (Reader.afterKeywords? keywords tokens') := by
  induction keywords generalizing tokens tokens' with
  | nil => exact .some alike
  | cons keyword keywords ih =>
      cases alike with
      | nil => exact .none
      | cons first others =>
          rw [Reader.afterKeywords?, Reader.afterKeywords?, first.isKeyword_eq]
          split
          · exact ih others
          · exact .none

theorem acceptKeywords_alike (keywords : List Keyword) :
    like.ReadsAlike Eq (Reader.acceptKeywords keywords) (Reader.acceptKeywords keywords) := by
  intro tokens tokens' alike
  have found := afterKeywords?_alike keywords alike
  unfold Reader.acceptKeywords
  generalize Reader.afterKeywords? keywords tokens = rest at found
  generalize Reader.afterKeywords? keywords tokens' = rest' at found
  cases found with
  | none => exact .ok rfl alike
  | some behind => exact .ok rfl behind

/-- Where no name stands, the errors are told of related tokens. -/
theorem identifier_alike (expected : Expectation) :
    like.ReadsAlike like.Text (Reader.identifier expected) (Reader.identifier expected) := by
  intro tokens tokens' alike
  cases alike with
  | nil => exact .error (.unexpectedEnd expected)
  | @cons token token' _ _ first others =>
      have named := first.identifier?
      unfold Reader.identifier
      dsimp only
      generalize token.identifier? = name at named
      generalize token'.identifier? = name' at named
      cases named with
      | none => exact .error (.expecting expected (.cons first others))
      | some names => exact .ok names others

theorem typeWord_alike : like.ReadsAlike like.Text Reader.typeWord Reader.typeWord := by
  intro tokens tokens' alike
  cases alike with
  | nil => exact .error (.unexpectedEnd .dataType)
  | cons first others =>
      unfold Reader.typeWord
      dsimp only
      rw [first.kind]
      split
      · exact .ok first.text others
      · exact .error (.expecting .dataType (.cons first others))

theorem acceptDropBehaviour_alike :
    like.ReadsAlike Eq Reader.acceptDropBehaviour Reader.acceptDropBehaviour := by
  intro tokens tokens' alike
  have same : tokens.head?.any Reader.isDropBehaviour =
      tokens'.head?.any Reader.isDropBehaviour := by
    cases alike with
    | nil => rfl
    | cons first others => exact first.isDropBehaviour_eq
  unfold Reader.acceptDropBehaviour
  rw [same]
  refine .ok rfl ?_
  split
  · exact tail_alike alike
  · exact alike

end

/-! ## Stretches of tokens -/

/-- A run is decided by kinds alone, so both runs end at the same place. -/
theorem runFrom_alike (inParens : Bool) (depth : Nat) :
    like.ReadsAlike like.Texts (runFrom inParens depth) (runFrom inParens depth) := by
  intro tokens tokens' alike
  induction alike generalizing depth with
  | nil =>
      unfold runFrom
      split
      · exact .error (.unexpectedEnd _)
      · exact .ok .nil .nil
  | @cons token token' rest rest' first others ih =>
      cases step : runStep inParens depth token.kind with
      | stop =>
          have step' : runStep inParens depth token'.kind = .stop := first.kind ▸ step
          rw [runFrom, runFrom, step, step']
          exact .ok .nil (.cons first others)
      | refuse expected =>
          have step' : runStep inParens depth token'.kind = .refuse expected := first.kind ▸ step
          rw [runFrom, runFrom, step, step']
          exact .error (.expecting expected (.cons first others))
      | take next =>
          have step' : runStep inParens depth token'.kind = .take next := first.kind ▸ step
          rw [Reader.runFrom_of_take step, Reader.runFrom_of_take step']
          exact (ih next).bind fun _ texts behind => .ok (.cons first.text texts) behind

theorem run_alike (inParens : Bool) :
    like.ReadsAlike like.Texts (Reader.run inParens) (Reader.run inParens) :=
  runFrom_alike inParens 0

theorem skipClause_alike : like.ReadsAlike Eq Reader.skipClause Reader.skipClause :=
  (run_alike false).bind fun _ => .pure rfl

/-- The tokens that are taken, and those behind them. -/
theorem span_alike {front : Token → Bool}
    (decides : ∀ {a b}, like.Tokens a b → front a = front b) {tokens tokens' : List Token}
    (alike : List.Forall₂ like.Tokens tokens tokens') :
    List.Forall₂ like.Tokens (tokens.takeWhile front) (tokens'.takeWhile front) ∧
      List.Forall₂ like.Tokens (tokens.dropWhile front) (tokens'.dropWhile front) := by
  induction alike with
  | nil => exact ⟨.nil, .nil⟩
  | cons first others ih =>
      rw [List.takeWhile_cons, List.takeWhile_cons, List.dropWhile_cons, List.dropWhile_cons,
        decides first]
      split
      · exact ⟨.cons first ih.1, ih.2⟩
      · exact ⟨.nil, .cons first others⟩

theorem texts_alike {tokens tokens' : List Token}
    (alike : List.Forall₂ like.Tokens tokens tokens') :
    like.Texts (tokens.map Token.text) (tokens'.map Token.text) :=
  List.rel_map (fun _ _ same => same.text) alike

theorem typeModifiers_alike :
    like.ReadsAlike like.Texts Reader.typeModifiers Reader.typeModifiers := by
  intro tokens tokens' alike
  obtain ⟨taken, behind⟩ := span_alike Tokens.isTypeModifier_eq alike
  exact .ok (texts_alike taken) behind

/-- The arguments are separated at the same commas. One that has begun is given by its texts. -/
theorem argumentsFrom_alike {current current' : List String} (begun : like.Texts current current') :
    like.ReadsAlike like.Texts (Reader.argumentsFrom current) (Reader.argumentsFrom current') := by
  intro tokens tokens' alike
  induction alike generalizing current current' with
  | nil => exact .error (.unexpectedEnd .closing)
  | @cons token token' rest rest' first others ih =>
      have here : List.Forall₂ like.Tokens (token :: rest) (token' :: rest') := .cons first others
      have kinds := first.kind
      cases kind : token.kind with
      | endOfInput =>
          rw [kind] at kinds
          simp only [Reader.argumentsFrom, kind, ← kinds]
          exact .error (.expecting .closing here)
      | openParen =>
          rw [kind] at kinds
          simp only [Reader.argumentsFrom, kind, ← kinds]
          exact .error (.expecting .typeArgument here)
      | closeParen =>
          rw [kind] at kinds
          simp only [Reader.argumentsFrom, kind, ← kinds]
          refine .ok ?_ others
          cases begun with
          | nil => exact .nil
          | cons text texts => exact .cons (Texts.intercalate " " (.cons text texts)) .nil
      | comma =>
          rw [Reader.argumentsFrom_of_comma kind, Reader.argumentsFrom_of_comma (kinds ▸ kind)]
          refine (ih .nil).bind fun _ arguments behind => ?_
          exact .ok (.cons (Texts.intercalate " " begun) arguments) behind
      | _ =>
          rw [kind] at kinds
          have further := ih (begun.append (.cons first.text .nil))
          simpa only [Reader.argumentsFrom, kind, ← kinds] using further

theorem typeArguments_alike :
    like.ReadsAlike like.Texts Reader.typeArguments Reader.typeArguments := by
  refine (accept_alike .openParen).bind ?_
  rintro opened _ rfl
  exact (argumentsFrom_alike .nil).ite (.pure .nil)

/-- Either spelling of a character set is found on both sides, and its name is related. -/
theorem characterSet_alike :
    like.ReadsAlike like.Named Reader.characterSet Reader.characterSet := by
  have named : like.ReadsAlike like.Named (some <$> Reader.identifier .characterSet)
      (some <$> Reader.identifier .characterSet) :=
    (identifier_alike .characterSet).bind fun names => .pure (.some names)
  refine (acceptKeywords_alike _).bind ?_
  rintro introduced _ rfl
  refine named.ite ((acceptKeywords_alike _).bind ?_)
  rintro charset _ rfl
  exact named.ite (.pure .none)

/-- The name of a type is joined from several tokens, which is why a likeness has to survive
joining. -/
theorem dataType_alike : like.ReadsAlike like.Types Reader.dataType Reader.dataType := by
  refine typeWord_alike.bind fun words => typeModifiers_alike.bind fun before => ?_
  refine typeArguments_alike.bind fun arguments => typeModifiers_alike.bind fun behind => ?_
  refine characterSet_alike.bind fun characterSets => .pure ⟨?_, arguments, characterSets⟩
  exact Texts.intercalate " " (.cons words (before.append behind))

theorem definition_alike (inParens : Bool) :
    like.ReadsAlike like.Definitions (Reader.definition inParens) (Reader.definition inParens) := by
  refine (identifier_alike .columnName).bind fun names => dataType_alike.bind fun types => ?_
  exact (run_alike inParens).bind fun specs => .pure ⟨names, types, specs⟩

/-! ## Clauses -/

/-- Of a clause that is passed over nothing is kept but its operation. -/
theorem skipped_alike (operation : Operation) :
    like.ReadsAlike like.Clauses (Reader.skipped operation) (Reader.skipped operation) :=
  skipClause_alike.bind fun _ => .pure ⟨rfl, .none, .none, .nil⟩

/-- What stands behind a definition in a list. The rest of the list is shorter, and `further` is
what is known of it. -/
theorem closing_alike {a b : ColumnDefinition} (first : like.Definitions a b)
    {tokens tokens' : List Token} (alike : List.Forall₂ like.Tokens tokens tokens')
    (further : ∀ {rest rest'}, rest.length < tokens.length →
      List.Forall₂ like.Tokens rest rest' → like.Results (List.Forall₂ like.Definitions)
        (Reader.definitionsFrom rest) (Reader.definitionsFrom rest')) :
    like.Results (List.Forall₂ like.Definitions) (Reader.closing a tokens)
      (Reader.closing b tokens') := by
  cases alike with
  | nil => exact .error (.unexpectedEnd .separatorOrClosing)
  | @cons token token' rest rest' token_alike others =>
      have kinds := token_alike.kind
      cases kind : token.kind with
      | comma =>
          rw [Reader.closing_of_comma a kind, Reader.closing_of_comma b (kinds ▸ kind)]
          refine (further (by simp) others).bind fun _ definitions behind => ?_
          exact .ok (.cons first definitions) behind
      | closeParen =>
          rw [kind] at kinds
          simp only [Reader.closing, kind, ← kinds]
          exact .ok (.cons first .nil) others
      | _ =>
          rw [kind] at kinds
          simp only [Reader.closing, kind, ← kinds]
          exact .error (.expecting .separatorOrClosing (.cons token_alike others))

/-- By induction on the tokens that are left, since a list goes on behind a whole definition. -/
theorem definitionsFrom_alike :
    like.ReadsAlike (List.Forall₂ like.Definitions) Reader.definitionsFrom
      Reader.definitionsFrom := by
  intro tokens
  induction size : tokens.length using Nat.strongRecOn generalizing tokens with
  | ind length shorter =>
      intro tokens' alike
      rw [Reader.definitionsFrom_eq]
      refine (definition_alike true alike).bind fun read first behind => ?_
      have smaller := (Reader.definition_shrinks true read).length_le
      exact closing_alike first behind fun less others => shorter _ (by omega) rfl others

theorem addedDefinitions_alike :
    like.ReadsAlike (List.Forall₂ like.Definitions) Reader.addedDefinitions
      Reader.addedDefinitions := by
  refine (accept_alike .openParen).bind ?_
  rintro opened _ rfl
  refine definitionsFrom_alike.ite ?_
  exact (definition_alike false).bind fun only => .pure (.cons only .nil)

theorem addedColumns_alike :
    like.ReadsAlike like.Clauses Reader.addedColumns Reader.addedColumns := by
  refine (acceptKeywords_alike _).bind fun _ => addedDefinitions_alike.bind fun definitions => ?_
  refine .pure ⟨rfl, ?_, .none, definitions⟩
  cases definitions with
  | nil => exact .none
  | cons first others => exact .some first.name

/-- The word behind `ADD` is the same keyword on both sides, so the same branch is taken. -/
theorem addClause_alike : like.ReadsAlike like.Clauses Reader.addClause Reader.addClause := by
  refine peekKeyword_alike.bind ?_
  rintro next _ rfl
  split
  · exact skipped_alike _
  · exact addedColumns_alike

theorem droppedColumn_alike :
    like.ReadsAlike like.Clauses Reader.droppedColumn Reader.droppedColumn := by
  refine (acceptKeywords_alike _).bind fun _ => (acceptKeywords_alike _).bind fun _ => ?_
  refine (identifier_alike .columnName).bind fun names => ?_
  exact acceptDropBehaviour_alike.bind fun _ => .pure ⟨rfl, .some names, .none, .nil⟩

/-- The word behind `DROP` is the same keyword on both sides. -/
theorem dropClause_alike : like.ReadsAlike like.Clauses Reader.dropClause Reader.dropClause := by
  refine peekKeyword_alike.bind ?_
  rintro next _ rfl
  split
  · exact skipped_alike _
  · exact droppedColumn_alike

theorem changeClause_alike :
    like.ReadsAlike like.Clauses Reader.changeClause Reader.changeClause := by
  refine (acceptKeywords_alike _).bind fun _ => (identifier_alike _).bind fun oldNames => ?_
  refine (definition_alike false).bind fun new => ?_
  exact .pure ⟨rfl, .some new.name, .some oldNames, .cons new .nil⟩

theorem furtherParts_alike :
    like.ReadsAlike like.Texts Reader.furtherParts Reader.furtherParts := by
  intro tokens
  induction size : tokens.length using Nat.strongRecOn generalizing tokens with
  | ind length shorter =>
      intro tokens' alike
      cases alike with
      | nil => exact .ok .nil .nil
      | @cons token token' rest rest' first others =>
          by_cases dot : token.kind = .dot
          · rw [Reader.furtherParts_of_dot dot, Reader.furtherParts_of_dot (first.kind ▸ dot)]
            refine (identifier_alike .tableName others).bind fun read parts behind => ?_
            have smaller := (Reader.identifier_shrinks .tableName read).length_le
            rw [List.length_cons] at size
            refine (shorter _ (by omega) rfl behind).bind fun _ further behind => ?_
            exact .ok (.cons parts further) behind
          · have front : Headed (¬·.kind = .dot) (token :: rest) := headed_cons.mpr dot
            have front' : Headed (¬·.kind = .dot) (token' :: rest') :=
              headed_cons.mpr (first.kind ▸ dot)
            rw [Reader.furtherParts_of_headed front, Reader.furtherParts_of_headed front']
            exact .ok .nil (.cons first others)

theorem tableName_alike :
    like.ReadsAlike (fun a b => like.Texts a.parts b.parts) Reader.tableName Reader.tableName :=
  (identifier_alike _).bind fun first => furtherParts_alike.bind fun parts =>
    .pure (.cons first parts)

theorem renamedTo_alike {oldName oldName' : String} (oldNames : like.Text oldName oldName') :
    like.ReadsAlike like.Clauses (Reader.renamedTo oldName) (Reader.renamedTo oldName') :=
  (identifier_alike _).bind fun names => .pure ⟨rfl, .some names, .some oldNames, .nil⟩

theorem renamedColumn_alike :
    like.ReadsAlike like.Clauses Reader.renamedColumn Reader.renamedColumn := by
  refine (identifier_alike _).bind fun oldNames => (acceptKeywords_alike _).bind ?_
  rintro renames _ rfl
  exact (renamedTo_alike oldNames).ite (.fail _)

theorem acceptToOrAs_alike : like.ReadsAlike Eq Reader.acceptToOrAs Reader.acceptToOrAs := by
  refine (acceptKeywords_alike _).bind ?_
  rintro first _ rfl
  exact (ReadsAlike.pure rfl).ite (acceptKeywords_alike _)

/-- The old name of a column that is renamed without `COLUMN` is a joined table reference. -/
theorem renamedTable_alike :
    like.ReadsAlike like.Clauses Reader.renamedTable Reader.renamedTable := by
  refine acceptToOrAs_alike.bind fun _ => tableName_alike.bind fun names => ?_
  refine (acceptKeywords_alike _).bind ?_
  rintro renames _ rfl
  refine (renamedTo_alike (Texts.intercalate "." names)).ite ?_
  exact .pure ⟨rfl, .none, .none, .nil⟩

theorem renameClause_alike :
    like.ReadsAlike like.Clauses Reader.renameClause Reader.renameClause := by
  refine (acceptKeywords_alike _).bind ?_
  rintro column _ rfl
  refine renamedColumn_alike.ite (peekKeyword_alike.bind ?_)
  rintro next _ rfl
  split
  · exact skipped_alike _
  · exact skipped_alike _
  · exact renamedTable_alike

theorem modifyClause_alike :
    like.ReadsAlike like.Clauses Reader.modifyClause Reader.modifyClause :=
  (acceptKeywords_alike _).bind fun _ => (definition_alike false).bind fun new =>
    .pure ⟨rfl, .some new.name, .none, .cons new .nil⟩

theorem alterColumnClause_alike :
    like.ReadsAlike like.Clauses Reader.alterColumnClause Reader.alterColumnClause := by
  refine (acceptKeywords_alike _).bind fun _ => (identifier_alike _).bind fun names => ?_
  exact skipClause_alike.bind fun _ => .pure ⟨rfl, .some names, .none, .nil⟩

/-- A clause with an unknown word is named after it, in capitals (`Likeness.upper`). -/
theorem clauseBehind_alike {word word' : Token} (words : like.Tokens word word') :
    like.ReadsAlike like.Clauses (Reader.clauseBehind word) (Reader.clauseBehind word') := by
  unfold Reader.clauseBehind
  rw [words.keyword?_eq, like.upper words.text]
  split
  · exact addClause_alike
  · exact dropClause_alike
  · exact changeClause_alike
  · exact renameClause_alike
  · exact modifyClause_alike
  · exact alterColumnClause_alike
  · exact skipped_alike _

theorem clause_alike : like.ReadsAlike like.Clauses Reader.clause Reader.clause := by
  intro tokens tokens' alike
  cases alike with
  | nil => exact .error (.unexpectedEnd .alteration)
  | cons first others =>
      unfold Reader.clause
      dsimp only
      rw [first.kind]
      split
      · exact clauseBehind_alike first others
      · exact .error (.expecting .alteration (.cons first others))

/-- What stands behind a clause, with what is known of the shorter rest. -/
theorem furtherClauses_alike {a b : Clause} (first : like.Clauses a b)
    {tokens tokens' : List Token} (alike : List.Forall₂ like.Tokens tokens tokens')
    (further : ∀ {rest rest'}, rest.length < tokens.length →
      List.Forall₂ like.Tokens rest rest' → like.Results (List.Forall₂ like.Clauses)
        (Reader.clausesFrom rest) (Reader.clausesFrom rest')) :
    like.Results (List.Forall₂ like.Clauses) (Reader.furtherClauses a tokens)
      (Reader.furtherClauses b tokens') := by
  cases alike with
  | nil => exact .ok (.cons first .nil) .nil
  | @cons token token' rest rest' front others =>
      by_cases comma : token.kind = .comma
      · rw [Reader.furtherClauses_of_comma a comma,
          Reader.furtherClauses_of_comma b (front.kind ▸ comma)]
        refine (further (by simp) others).bind fun _ clauses behind => ?_
        exact .ok (.cons first clauses) behind
      · have front' : Headed (¬·.kind = .comma) (token' :: rest') :=
          headed_cons.mpr (front.kind ▸ comma)
        rw [Reader.furtherClauses_of_headed a (headed_cons.mpr comma),
          Reader.furtherClauses_of_headed b front']
        exact .ok (.cons first .nil) (.cons front others)

/-- By induction on the tokens that are left, as for definitions. -/
theorem clausesFrom_alike :
    like.ReadsAlike (List.Forall₂ like.Clauses) Reader.clausesFrom Reader.clausesFrom := by
  intro tokens
  induction size : tokens.length using Nat.strongRecOn generalizing tokens with
  | ind length shorter =>
      intro tokens' alike
      rw [Reader.clausesFrom_eq]
      refine (clause_alike alike).bind fun read first behind => ?_
      have smaller := (Reader.clause_shrinks read).length_le
      exact furtherClauses_alike first behind fun less others => shorter _ (by omega) rfl others

/-! ## Statements -/

theorem skipSemicolons_alike {tokens tokens' : List Token}
    (alike : List.Forall₂ like.Tokens tokens tokens') :
    List.Forall₂ like.Tokens (Reader.skipSemicolons tokens) (Reader.skipSemicolons tokens') :=
  (span_alike (fun same => by rw [same.kind]) alike).2

/-- Whether a token ends the input is decided by its kind. -/
theorem atEnd_eq {tokens tokens' : List Token} (alike : List.Forall₂ like.Tokens tokens tokens') :
    Reader.atEnd tokens = Reader.atEnd tokens' := by
  cases alike with
  | nil => rfl
  | cons first others => exact first.isEnd_eq

theorem endOfStatement_alike :
    like.ReadsAlike Eq Reader.endOfStatement Reader.endOfStatement := by
  intro tokens tokens' alike
  have behind := skipSemicolons_alike alike
  unfold Reader.endOfStatement
  dsimp only
  rw [atEnd_eq behind]
  split
  · exact .ok rfl behind
  · exact .error (.expecting .separatorOrEnd behind)

/-- What stands behind `ALTER TABLE` is read by one reader, so it is alike as a whole. -/
theorem alterTable_alike :
    like.ReadsAlike like.Alterations Reader.alterTable Reader.alterTable := by
  refine (acceptKeywords_alike _).bind fun ifExists => tableName_alike.bind fun tables => ?_
  refine clausesFrom_alike.bind fun clauses => endOfStatement_alike.bind fun _ => ?_
  exact .pure ⟨tables, ifExists, clauses⟩

/-- What is left behind a statement does not matter any more. -/
theorem Results.alterTable {read read' : Except ParseError (AlterTable × List Token)}
    (results : like.Results like.Alterations read read') :
    like.Spelt (read.map fun read => .alterTable read.1)
      (read'.map fun read => .alterTable read.1) := by
  cases results with
  | ok statements _ => exact .ok (.alterTable statements)
  | error alike => exact .error alike

/-- Tokens that are alike spell statements that are alike, or fail alike. -/
theorem ofTokens_alike {tokens tokens' : List Token}
    (alike : List.Forall₂ like.Tokens tokens tokens') :
    like.Spelt (Statement.ofTokens tokens) (Statement.ofTokens tokens') := by
  have behind := skipSemicolons_alike alike
  unfold Statement.ofTokens
  generalize Reader.skipSemicolons tokens = rest at behind
  generalize Reader.skipSemicolons tokens' = rest' at behind
  cases behind with
  | nil => exact .error .empty
  | @cons first first' others others' firsts further =>
      have fronts := afterKeywords?_alike [.alter, .table] (.cons firsts further)
      dsimp only
      rw [firsts.isEnd_eq, like.upper firsts.text]
      split
      · exact .error .empty
      · generalize Reader.afterKeywords? [.alter, .table] (first :: others) = front at fronts
        generalize Reader.afterKeywords? [.alter, .table] (first' :: others') = front' at fronts
        cases fronts with
        | none => exact .ok (.other _)
        | some behind => exact (alterTable_alike behind).alterTable

end Likeness

end AlterRelay.Sql
