/-
# AlterRelay.Proofs.Sql.AdditionFront — a column added, up to its type

A column may be added anywhere in a statement: behind other clauses, alone or in a
list of definitions, with its name in any spelling. `AdditionFront` is whatever may
stand in front of its type.

All of it is read before the type is seen, and none of it is read again: whatever the
tokens from the name on turn out to be, the statement consists of the clauses in
front and of what they are (`ofTokens_additionFront`, `clause_addition`,
`addedDefinitions_front`).
-/
import AlterRelay.Proofs.Sql.FormStatement
import AlterRelay.Proofs.Sql.PredictiveClause

namespace AlterRelay.Sql

set_option autoImplicit false

/-! ## What stands in front of a type -/

/-- Lexemes that a reader reads to their end. -/
structure Whole {α : Type} (reader : Reader α) where
  lexemes : List Lexeme
  value : α
  read : reader (lexemes.map Lexeme.token) = .ok (value, [])

/-- Parts of a list, each with a comma behind it. -/
def earlierLexemes {α : Type} {reader : Reader α} (earlier : List (Whole reader)) : List Lexeme :=
  earlier.flatMap fun part => part.lexemes ++ [.comma]

/-- What stands in front of the type in a clause that adds a column. In a list in parentheses,
other definitions may stand there as well. -/
structure ColumnFront where
  add : KeywordWord .add
  column : Option (KeywordWord .column)
  listed : Option (List (Whole (Reader.definition true)))
  name : NameForm
  /-- Right behind `ADD`, a name may spell no word that means something there. -/
  apart : column = none → listed = none → ∀ keyword,
    name.lexeme.token.keyword? = some keyword →
      keyword ≠ .column ∧ Reader.addedObject? keyword = none

/-- The lexemes from the opening parenthesis, if there is one, to the name. -/
def ColumnFront.opening (front : ColumnFront) : List Lexeme :=
  front.listed.elim [] (fun earlier => .openParen :: earlierLexemes earlier) ++
    [front.name.lexeme]

def ColumnFront.lexemes (front : ColumnFront) : List Lexeme :=
  front.add.lexeme :: (optionalWord front.column ++ front.opening)

/-- What stands in front of the type of an added column in a whole statement. -/
structure AdditionFront where
  semicolons : Nat
  alter : KeywordWord .alter
  table : KeywordWord .table
  ifExists : Option IfExists
  names : List NameForm
  named : names ≠ []
  clauses : List (Whole Reader.clause)
  column : ColumnFront
  /-- The name of the table does not begin with `IF EXISTS`. -/
  apart : Reader.afterKeywords? [.ifWord, .existsWord]
    (((names.map NameForm.lexeme).intersperse .dot ++
      (earlierLexemes clauses ++ column.lexemes)).map Lexeme.token) = none

def AdditionFront.lexemes (front : AdditionFront) : List Lexeme :=
  List.replicate front.semicolons .semicolon ++ front.alter.lexeme :: front.table.lexeme ::
    (IfExists.lexemes front.ifExists ++ ((front.names.map NameForm.lexeme).intersperse .dot ++
      (earlierLexemes front.clauses ++ front.column.lexemes)))

namespace Reader

variable {α : Type}

/-! ## Parts in front -/

/-- Readers that do the same at these tokens go on the same. -/
theorem bind_of_eq {β : Type} {reader reader' : Reader α} {next : α → Reader β}
    {tokens tokens' : List Token} (same : reader tokens = reader' tokens') :
    (reader >>= next) tokens = (reader' >>= next) tokens' := by
  show (reader tokens >>= fun read => next read.1 read.2) =
    (reader' tokens' >>= fun read => next read.1 read.2)
  rw [same]

theorem whole_before {reader : Reader α} {stops : Token → Prop}
    (predictive : Predictive stops reader) (part : Whole reader) {more : List Token}
    (stopped : Headed stops more) :
    reader (part.lexemes.map Lexeme.token ++ more) = .ok (part.value, more) := by
  obtain ⟨taken, split, stable⟩ := (predictive _).reads part.read
  rw [List.append_nil] at split
  rw [split]
  exact stable more (.inr ⟨Headed.nil _, stopped⟩)

/-- A list is read part by part: those in front do not touch the others. -/
theorem list_behind {reader : Reader α} {list : Reader (List α)} {next : α → Reader (List α)}
    (parts : list = reader >>= next)
    (further : ∀ (first : α) {token : Token}, token.kind = .comma → ∀ tokens,
      next first (token :: tokens) =
        (do
          let more ← list
          pure (first :: more) : Reader (List α)) tokens)
    {stops : Token → Prop} (predictive : Predictive stops reader)
    (comma : stops Lexeme.comma.token) (earlier : List (Whole reader)) (tokens : List Token) :
    list ((earlierLexemes earlier).map Lexeme.token ++ tokens) =
      (do
        let more ← list
        pure (earlier.map Whole.value ++ more) : Reader (List α)) tokens := by
  induction earlier with
  | nil => exact congrFun (bind_pure list).symm tokens
  | cons part earlier ih =>
      have shape : (earlierLexemes (part :: earlier)).map Lexeme.token ++ tokens =
          part.lexemes.map Lexeme.token ++ Lexeme.comma.token ::
            ((earlierLexemes earlier).map Lexeme.token ++ tokens) := by
        simp [earlierLexemes]
      have stopped : Headed stops (Lexeme.comma.token ::
          ((earlierLexemes earlier).map Lexeme.token ++ tokens)) := headed_cons.mpr comma
      -- A comma is one of the tokens that may follow a part, whatever stands behind it.
      have here := whole_before predictive part stopped
      rw [shape, congrFun parts, bind_of_ok here, further part.value rfl]
      cases read : list tokens with
      | error error =>
          rw [bind_of_error read] at ih
          rw [bind_of_error ih, bind_of_error read]
      | ok result =>
          rw [bind_of_ok read] at ih
          rw [bind_of_ok ih, bind_of_ok read]
          rfl

/-! ## Definitions -/

/-- The definitions of the clause, where the tokens begin with the name of the column. -/
def definitionsBehind (front : ColumnFront) : Reader (List ColumnDefinition) :=
  match front.listed with
  | none => do
      let only ← definition false
      pure [only]
  | some earlier => do
      let more ← definitionsFrom
      pure (earlier.map Whole.value ++ more)

theorem addedDefinitions_front (front : ColumnFront) (tokens : List Token) :
    addedDefinitions (front.opening.map Lexeme.token ++ tokens) =
      definitionsBehind front (front.name.lexeme.token :: tokens) := by
  unfold definitionsBehind
  cases listed : front.listed with
  | none =>
      have alone : front.opening = [front.name.lexeme] := by
        simp [ColumnFront.opening, listed]
      have notOpen : Headed (¬·.kind = .openParen) (front.name.lexeme.token :: tokens) := by
        refine headed_cons.mpr fun opens => ?_
        have named := front.name.named
        rw [Token.identifier?, opens] at named
        cases named
      rw [alone, List.map_singleton, List.singleton_append, addedDefinitions,
        bind_of_ok (accept_of_headed notOpen), if_neg Bool.false_ne_true]
  | some earlier =>
      have opening : Lexeme.openParen.token.kind = .openParen := rfl
      have shape : front.opening.map Lexeme.token ++ tokens = Lexeme.openParen.token ::
          ((earlierLexemes earlier).map Lexeme.token ++ front.name.lexeme.token :: tokens) := by
        simp [ColumnFront.opening, listed]
      have behind := list_behind definitionsFrom_eq closing_of_comma (definition_predictive true)
        rfl earlier (front.name.lexeme.token :: tokens)
      rw [shape, addedDefinitions, bind_of_ok (accept_of_kind opening _), if_pos rfl]
      exact behind

/-! ## Clauses -/

theorem clause_addition (front : ColumnFront) (tokens : List Token) :
    clause (front.lexemes.map Lexeme.token ++ tokens) =
      (do
        let definitions ← addedDefinitions
        pure { operation := .add, column := definitions.head?.map (·.name), definitions } :
          Reader Clause) (front.opening.map Lexeme.token ++ tokens) := by
  obtain ⟨add, column, listed, name, apart⟩ := front
  generalize opening : ColumnFront.opening ⟨add, column, listed, name, apart⟩ = lexemes
  -- Without `COLUMN`, the name of the column must not be read as a keyword.
  have front : column = none → ∀ keyword,
      (lexemes.map Lexeme.token ++ tokens).head?.bind Token.keyword? = some keyword →
        keyword ≠ .column ∧ addedObject? keyword = none := by
    intro bare keyword spelt
    subst opening
    cases listed with
    | none => exact apart bare rfl keyword spelt
    | some earlier => cases spelt
  have peeked : (((optionalWord column).map Lexeme.token ++
      (lexemes.map Lexeme.token ++ tokens)).head?.bind Token.keyword?).bind addedObject? =
        none := by
    cases column with
    | none =>
        refine Option.bind_eq_none_iff.mpr fun keyword spelt => ?_
        exact (front rfl keyword spelt).2
    | some column =>
        have spelt : column.lexeme.token.keyword? = some .column := eq_of_beq column.spells_token
        show column.lexeme.token.keyword?.bind addedObject? = none
        rw [spelt]
        rfl
  have accepted : acceptKeyword .column ((optionalWord column).map Lexeme.token ++
      (lexemes.map Lexeme.token ++ tokens)) =
        .ok (column.isSome, lexemes.map Lexeme.token ++ tokens) := by
    cases column with
    | none =>
        refine acceptKeywords_of_headed fun token first spelt => ?_
        refine (front rfl .column ?_).1 rfl
        rw [show (lexemes.map Lexeme.token ++ tokens).head? = some token from first]
        exact eq_of_beq spelt
    | some column => exact acceptKeyword_of_isKeyword column.spells_token _
  have shape : (ColumnFront.lexemes ⟨add, column, listed, name, apart⟩).map Lexeme.token ++
      tokens = add.lexeme.token :: ((optionalWord column).map Lexeme.token ++
        (lexemes.map Lexeme.token ++ tokens)) := by
    simp [ColumnFront.lexemes, opening]
  rw [shape, clause_of_keyword]
  show addClause _ = _
  rw [addClause, bind_of_ok rfl, peeked]
  show addedColumns _ = _
  rw [addedColumns, bind_of_ok accepted]

/-- The clauses in front of the one that adds the column are read first. -/
theorem clauseList_front (earlier : List (Whole clause)) (front : ColumnFront)
    (tokens : List Token) :
    clauseList ((earlierLexemes earlier).map Lexeme.token ++
        (front.lexemes.map Lexeme.token ++ tokens)) =
      (clauseList (front.lexemes.map Lexeme.token ++ tokens)).map fun read =>
        (earlier.map Whole.value ++ read.1, read.2) := by
  have behind := list_behind clausesFrom_eq furtherClauses_of_comma clause_predictive rfl earlier
    (front.lexemes.map Lexeme.token ++ tokens)
  rw [← clauseList_map, clauseList, bind_of_eq behind, bind_assoc]
  simp only [pure_bind]

/-! ## Statements -/

theorem afterKeywords?_append {keywords : List Keyword} {tokens : List Token}
    (absent : afterKeywords? keywords tokens = none) (long : keywords.length ≤ tokens.length)
    (more : List Token) : afterKeywords? keywords (tokens ++ more) = none := by
  induction keywords generalizing tokens with
  | nil => cases absent
  | cons keyword keywords ih =>
      cases tokens with
      | nil => simp at long
      | cons token tokens =>
          rw [List.cons_append, afterKeywords?]
          rw [afterKeywords?] at absent
          split
          · rename_i spelt
            rw [if_pos spelt] at absent
            exact ih absent (by simpa using long)
          · rfl

theorem headed_clauses (earlier : List (Whole clause)) (front : ColumnFront)
    (tokens : List Token) :
    Headed (¬·.kind = .dot) ((earlierLexemes earlier).map Lexeme.token ++
      (front.lexemes.map Lexeme.token ++ tokens)) := by
  cases earlier with
  | nil => exact headed_cons.mpr TokenKind.noConfusion
  | cons part earlier =>
      obtain ⟨lexemes, value, read⟩ := part
      cases lexemes with
      | nil => cases read
      | cons lexeme lexemes =>
          refine headed_cons.mpr fun dot => ?_
          have noWord : ¬lexeme.token.kind = .word := by
            rw [dot]
            exact TokenKind.noConfusion
          rw [List.map_cons, clause, if_neg noWord] at read
          cases read

end Reader

/-- A statement with this front consists of the clauses in it, and of those that the rest of the
tokens are read as. -/
theorem ofTokens_additionFront (front : AdditionFront) (tokens : List Token) :
    Statement.ofTokens (front.lexemes.map Lexeme.token ++ tokens) =
      (Reader.clauseList (front.column.lexemes.map Lexeme.token ++ tokens)).map fun read =>
        .alterTable ⟨⟨front.names.map NameForm.name⟩, front.ifExists.isSome,
          front.clauses.map Whole.value ++ read.1⟩ := by
  have semicolons : ∀ token ∈ (List.replicate front.semicolons Lexeme.semicolon).map Lexeme.token,
      token.kind = .semicolon := by
    refine List.forall_mem_map.mpr fun lexeme member => ?_
    rw [List.eq_of_mem_replicate member]
    rfl
  have long : 2 ≤ (((front.names.map NameForm.lexeme).intersperse .dot ++
      (earlierLexemes front.clauses ++ front.column.lexemes)).map Lexeme.token).length := by
    simp [ColumnFront.lexemes, ColumnFront.opening]
    omega
  have apart := Reader.afterKeywords?_append front.apart long tokens
  rw [List.map_append, List.map_append, List.append_assoc, List.append_assoc] at apart
  have whole := ofTokens_named semicolons front.alter front.table front.ifExists front.named apart
    (Reader.headed_clauses front.clauses front.column tokens)
  have shape : front.lexemes.map Lexeme.token ++ tokens =
      (List.replicate front.semicolons Lexeme.semicolon).map Lexeme.token ++
        front.alter.lexeme.token :: front.table.lexeme.token ::
          ((IfExists.lexemes front.ifExists).map Lexeme.token ++
            (((front.names.map NameForm.lexeme).intersperse .dot).map Lexeme.token ++
              ((earlierLexemes front.clauses).map Lexeme.token ++
                (front.column.lexemes.map Lexeme.token ++ tokens)))) := by
    simp [AdditionFront.lexemes]
  rw [shape, whole, Reader.clauseList_front]
  cases Reader.clauseList (front.column.lexemes.map Lexeme.token ++ tokens) <;> rfl

end AlterRelay.Sql
