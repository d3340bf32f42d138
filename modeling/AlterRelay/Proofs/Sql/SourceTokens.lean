/-
# AlterRelay.Proofs.Sql.SourceTokens — what is kept of a statement stood in its source

The names and the specs of a parsed statement are texts. Each of them can be traced
back to the tokens it came from: specs are the texts of tokens that stand one behind
the other (`drawn_of_parse`), and a name is what a single token gives
(`names_of_parse`).

There is one exception. A column that is renamed without the word `COLUMN` has its
old name read as a table reference, and the parts of that are joined by dots.
-/
import AlterRelay.Proofs.Sql.Grammar

namespace AlterRelay.Sql

set_option autoImplicit false

/-! ## Specs -/

/-- The specs of the definition are the texts of tokens that stand together in `whole`. -/
def ColumnDefinition.DrawnFrom (whole : List Token) (definition : ColumnDefinition) : Prop :=
  ∃ run, run <:+: whole ∧ run.map Token.text = definition.specs

/-- Every definition of the clause is drawn from `whole`. -/
def Clause.DrawnFrom (whole : List Token) (clause : Clause) : Prop :=
  ∀ definition ∈ clause.definitions, definition.DrawnFrom whole

theorem DefinitionRun.drawnFrom {run whole : List Token} {definition : ColumnDefinition}
    (spelt : DefinitionRun run definition) (within : run <:+: whole) :
    definition.DrawnFrom whole := by
  cases spelt with
  | @mk token typeRun specs name type named typed =>
      have last : specs <:+ token :: (typeRun ++ specs) :=
        (List.suffix_append typeRun specs).trans (List.suffix_cons _ _)
      exact ⟨specs, last.isInfix.trans within, rfl⟩

/-- The specs of a statement that was parsed are texts of tokens of its source. -/
theorem drawn_of_parse {source : String} {statement : AlterTable}
    (read : Statement.parse source = .ok (.alterTable statement)) :
    ∃ tokens, tokenize source = .ok tokens ∧
      ∀ clause ∈ statement.clauses, clause.DrawnFrom tokens := by
  obtain ⟨tokens, run, lexed, within, listed⟩ := spelt_of_parse read
  refine ⟨tokens, lexed, fun clause member definition defined => ?_⟩
  obtain ⟨part, inRun, spelt⟩ := listed.forall clause member
  obtain ⟨tokens', inPart, defined'⟩ := spelt.definitions definition defined
  exact defined'.drawnFrom (inPart.trans (inRun.trans within))

/-! ## Names -/

/-- The name is given by one of the tokens. -/
def NamedIn (tokens : List Token) (name : String) : Prop :=
  ∃ token ∈ tokens, token.identifier? = some name

theorem NamedIn.of_within {run tokens : List Token} {name : String} (named : NamedIn run name)
    (within : run <:+: tokens) : NamedIn tokens name := by
  obtain ⟨token, member, gives⟩ := named
  exact ⟨token, within.subset member, gives⟩

theorem DefinitionRun.named {run : List Token} {definition : ColumnDefinition}
    (spelt : DefinitionRun run definition) : NamedIn run definition.name := by
  cases spelt with
  | mk named typed => exact ⟨_, List.mem_cons_self, named⟩

namespace ClauseRun

variable {run : List Token} {clause : Clause}

theorem definition_named (spelt : ClauseRun run clause) :
    ∀ definition ∈ clause.definitions, NamedIn run definition.name := by
  intro definition member
  obtain ⟨part, within, defined⟩ := spelt.definitions definition member
  exact defined.named.of_within within

theorem column_named (spelt : ClauseRun run clause) {name : String}
    (column : clause.column = some name) : NamedIn run name := by
  have defined := spelt.definition_named
  cases spelt with
  | addOne =>
      cases column
      exact defined _ List.mem_cons_self
  | addSeveral =>
      obtain ⟨definition, first, rfl⟩ := Option.map_eq_some_iff.mp column
      exact defined definition (List.mem_of_mem_head? first)
  | drop drops optional condition named =>
      cases column
      exact ⟨_, by simp, named⟩
  | change =>
      cases column
      exact defined _ List.mem_cons_self
  | rename renamed =>
      cases renamed with
      | ofColumn renames ofColumn old toWord new =>
          cases column
          exact ⟨_, by simp, new⟩
      | bare renames leads old toWord new =>
          cases column
          exact ⟨_, by simp, new⟩
  | renameTable => cases column
  | modify =>
      cases column
      exact defined _ List.mem_cons_self
  | alterColumn alters optional named =>
      cases column
      exact ⟨_, by simp, named⟩
  | skipped => cases column

theorem oldColumn_named (spelt : ClauseRun run clause) (other : clause.operation ≠ .rename)
    {name : String} (old : clause.oldColumn = some name) : NamedIn run name := by
  cases spelt with
  | change changes optional named =>
      cases old
      exact ⟨_, by simp, named⟩
  | rename renamed => cases renamed <;> exact absurd rfl other
  | _ => cases old

theorem renameRun (spelt : ClauseRun run clause) (renames : clause.operation = .rename) :
    RenameRun run clause := by
  cases spelt with
  | rename renamed => exact renamed
  | skipped isWord other =>
      cases renames
      simp at other
  | _ => cases renames

end ClauseRun

theorem RenameRun.oldColumn_named {run : List Token} {clause : Clause}
    (spelt : RenameRun run clause) (noDot : ∀ token ∈ run, token.kind ≠ .dot) {name : String}
    (old : clause.oldColumn = some name) : NamedIn run name := by
  cases spelt with
  | ofColumn renames ofColumn named =>
      cases old
      exact ⟨_, by simp, named⟩
  | bare renames leads reference =>
      cases reference with
      | @last token part named =>
          cases old
          exact ⟨token, by simp, by simpa [TableName.text] using named⟩
      | @more token separator part behind parts named dot others =>
          exact absurd dot (noDot separator (by simp))

/-- Every name in a statement that was parsed is given by one token of its source, but for the
old name of a column that is renamed without `COLUMN`. That one may be put together from the
parts of a reference, and is given by one token only if no dot stands in the clause. -/
theorem names_of_parse {source : String} {statement : AlterTable}
    (read : Statement.parse source = .ok (.alterTable statement)) :
    ∃ tokens, tokenize source = .ok tokens ∧ ∀ clause ∈ statement.clauses,
      (∀ name, clause.column = some name → NamedIn tokens name) ∧
      (∀ definition ∈ clause.definitions, NamedIn tokens definition.name) ∧
      (clause.operation ≠ .rename →
        ∀ name, clause.oldColumn = some name → NamedIn tokens name) ∧
      (clause.operation = .rename → ∃ run, run <:+: tokens ∧ RenameRun run clause ∧
        ((∀ token ∈ run, token.kind ≠ .dot) →
          ∀ name, clause.oldColumn = some name → NamedIn tokens name)) := by
  obtain ⟨tokens, run, lexed, within, listed⟩ := spelt_of_parse read
  refine ⟨tokens, lexed, fun clause member => ?_⟩
  obtain ⟨part, inRun, spelt⟩ := listed.forall clause member
  have inTokens := inRun.trans within
  refine ⟨?column, ?definitions, ?oldColumn, ?renamed⟩
  case column => exact fun name column => (spelt.column_named column).of_within inTokens
  case definitions =>
    exact fun definition defined => (spelt.definition_named definition defined).of_within inTokens
  case oldColumn =>
    exact fun other name old => (spelt.oldColumn_named other old).of_within inTokens
  case renamed =>
    intro renames
    have renamed := spelt.renameRun renames
    refine ⟨part, inTokens, renamed, fun noDot name old => ?_⟩
    exact (renamed.oldColumn_named noDot old).of_within inTokens

/-- Names in three spellings, one of them with a dot in its quotes. -/
def quotedSource : String := "ALTER TABLE t RENAME AS `a.b` TO \"c\", CHANGE d `e``f` INT"

def quotedStatement : AlterTable where
  table := ⟨["t"]⟩
  ifExists := false
  clauses :=
    [{ operation := .rename, column := "c", oldColumn := "a.b" },
      { operation := .change, column := "e`f", oldColumn := "d",
        definitions := [⟨"e`f", ⟨"INT", [], none⟩, []⟩] }]

theorem names_of_parse_quoted :
    Statement.parse quotedSource = .ok (.alterTable quotedStatement) ∧
      ∃ tokens, tokenize quotedSource = .ok tokens ∧ NamedIn tokens "c" ∧ NamedIn tokens "d" ∧
        NamedIn tokens "e`f" ∧ ∃ run, run <:+: tokens ∧
          RenameRun run { operation := .rename, column := "c", oldColumn := "a.b" } := by
  have read : Statement.parse quotedSource = .ok (.alterTable quotedStatement) := by
    decide +kernel
  obtain ⟨tokens, lexed, each⟩ := names_of_parse read
  obtain ⟨⟨column, -, -, renamed⟩, others⟩ := List.forall_mem_cons.mp each
  obtain ⟨column', definitions, old, -⟩ := others _ List.mem_cons_self
  obtain ⟨run, within, spelt, -⟩ := renamed rfl
  exact ⟨read, tokens, lexed, column _ rfl, old Operation.noConfusion _ rfl, column' _ rfl, run,
    within, spelt⟩

def dottedSource : String := "ALTER TABLE t RENAME a.b TO c"

def dottedTokens : List Token := (tokenize dottedSource).toOption.getD []

/-- A dotted name is taken for the old name of a column, though no token gives it. -/
theorem dotted_rename :
    tokenize dottedSource = .ok dottedTokens ∧
      Statement.parse dottedSource = .ok (.alterTable ⟨⟨["t"]⟩, false,
        [{ operation := .rename, column := "c", oldColumn := "a.b" }]⟩) ∧
      ¬NamedIn dottedTokens "a.b" := by
  refine ⟨by decide +kernel, by decide +kernel, ?_⟩
  unfold NamedIn
  decide +kernel

end AlterRelay.Sql
